import Conformance.Json.Value

/-!
Requests to the gateway, as the runner makes them.
-/

namespace Conformance

/-- What a request carries. JSON is written out when it is sent. -/
inductive Body where
  | json (value : Json)
  | text (content : String)
deriving Repr

/-- Names and values in the order of the names, each spelling once. -/
abbrev Headers := List (String × String)

structure Request where
  method : String
  url : String
  headers : Headers
  body : Option Body
deriving Repr

end Conformance
