import Conformance.Text.Composed
import Conformance.Text.Direction
import Conformance.Text.Joining
import Conformance.Url.Folding
import Conformance.Url.Percent
import Conformance.Url.Punycode

/-!
Domain names in ASCII. Characters are folded, and a label with others than ASCII characters left is
written in Punycode after `xn--`. Labels may be empty, and of any length unless they are so written.
-/

namespace Conformance.Url

open Text (Direction direction)

/-! ### Labels -/

/-- Characters that separate parts of a URL, controls, the space and the percent sign. -/
def isForbiddenInDomain (c : Char) : Bool :=
  c.toNat ≤ 0x20 || c.toNat = 0x7F
    || ['%', '#', '/', ':', '<', '>', '?', '@', '[', '\\', ']', '^', '|'].contains c

def isLabelChar (c : Char) : Bool :=
  if Punycode.isAscii c then !isForbiddenInDomain c && c.toLower = c else isFolded c

/-- No label with others than ASCII characters has more characters. -/
def longestLabel : Nat := 1000

/-- No more characters after the mark are taken for a label. -/
def longestEncoding : Nat := 2000

/-- A label in composed form, which does not start with a mark, and whose joiners have their
place. -/
def isLabel (cs : List Char) : Bool :=
  cs.all isLabelChar && !cs.head?.any Text.isMark && Text.composed cs == cs
    && Text.joinersStand [] cs && (cs.all Punycode.isAscii || cs.length ≤ longestLabel)

def encodedMark : List Char := ['x', 'n', '-', '-']

/-- The characters of a label. What follows the mark stands for a label that needs it. -/
def readLabel (cs : List Char) : Option (List Char) :=
  if encodedMark.isPrefixOf cs then
    let encoding := cs.drop encodedMark.length
    if longestEncoding < encoding.length then none
    else match Punycode.decode encoding with
      | some label =>
        if isLabel label && !label.all Punycode.isAscii then some label else none
      | none => none
  else if isLabel cs then some cs
  else none

/-- A label in ASCII. -/
def writeLabel (cs : List Char) : List Char :=
  if cs.all Punycode.isAscii then cs else encodedMark ++ Punycode.encode cs

/-! ### Writing direction -/

/-- The directions of a label without the marks at its end. -/
def trimmedDirections (cs : List Char) : List Direction :=
  ((cs.map direction).reverse.dropWhile (· = .mark)).reverse

/-- A label that starts from the left has nothing in it that is written from the right, and ends in
a letter or digit. -/
def isLeftLabel (ds : List Direction) : Bool :=
  ds.all (fun d => d ≠ .rightToLeft ∧ d ≠ .arabicNumber)
    && ds.getLast?.any [.leftToRight, .europeanNumber].contains

/-- A label that starts from the right has no letters in it that are written from the left, ends in
a letter or digit, and has digits of one kind. -/
def isRightLabel (ds : List Direction) : Bool :=
  ds.all (· ≠ .leftToRight)
    && ds.getLast?.any [.rightToLeft, .europeanNumber, .arabicNumber].contains
    && !(ds.contains .europeanNumber && ds.contains .arabicNumber)

def isDirected (cs : List Char) : Bool :=
  match trimmedDirections cs with
  | [] => cs.isEmpty
  | .leftToRight :: ds => isLeftLabel (.leftToRight :: ds)
  | .rightToLeft :: ds => isRightLabel (.rightToLeft :: ds)
  | _ => false

/-- Something in the label is written from the right. -/
def isFromRight (cs : List Char) : Bool :=
  cs.any fun c => direction c == .rightToLeft || direction c == .arabicNumber

/-! ### Names -/

/-- A domain name in ASCII and small letters. -/
def domainToAscii (bytes : List UInt8) : Option (List Char) := do
  let cs ← ofUtf8? bytes
  let labels ← (Text.splitAt '.' (Text.composed (cs.flatMap foldChar))).mapM readLabel
  if labels.any isFromRight && !labels.all isDirected then none
  else some (Text.joinWith '.' (labels.map writeLabel))

end Conformance.Url
