/-!
Colours on the terminal.
-/

namespace Conformance.Console

inductive Colour where
  | red
  | green
  | yellow
  | blue
deriving DecidableEq, Repr

/-- The number that selects a colour. -/
def Colour.code : Colour → Nat
  | red => 31
  | green => 32
  | yellow => 33
  | blue => 34

/-- Back to the plain style. -/
def reset : List Char := ['\x1b', '[', '0', 'm']

def Colour.start (c : Colour) : List Char :=
  '\x1b' :: '[' :: Nat.toDigits 10 c.code ++ ['m']

/-- A text that goes back to the plain style is put into `style` again right after. -/
def resume (style : List Char) : List Char → List Char
  | '\x1b' :: '[' :: '0' :: 'm' :: rest => reset ++ style ++ resume style rest
  | c :: rest => c :: resume style rest
  | [] => []

/-- The text in a colour, or as it is where colours are off. -/
def paint (colours : Bool) (c : Colour) (text : String) : String :=
  if colours then String.ofList (c.start ++ resume c.start text.toList ++ reset) else text

end Conformance.Console
