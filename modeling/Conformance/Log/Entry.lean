import Conformance.Json.Value

/-!
Entries of the log.
-/

namespace Conformance.Log

/-- From the gravest to the least. -/
inductive Level where
  | error
  | warn
  | info
  | debug
  | trace
deriving DecidableEq, Repr

namespace Level

/-- How far down a filter must reach to let the level pass. -/
def depth : Level → Nat
  | error => 1
  | warn => 2
  | info => 3
  | debug => 4
  | trace => 5

def name : Level → String
  | error => "ERROR"
  | warn => "WARN"
  | info => "INFO"
  | debug => "DEBUG"
  | trace => "TRACE"

end Level

structure Entry where
  level : Level
  /-- The component that speaks, below the name of the program. -/
  target : String
  fields : List (String × Json)
deriving Repr

/-- The target of a component. -/
def targetOf (component : String) : String :=
  "gatecheck::" ++ component

end Conformance.Log
