/-!
Routes: the path in front of an endpoint that tells the gateway how to choose the model.
-/

namespace Conformance

inductive Route where
  | default
  | switch
  | switchCompat
  | group (name : String)
  | groupCompat (name : String)
deriving DecidableEq, Repr

namespace Route

/-- The five routes in the order in which they are tried. -/
def all (group : String) : List Route :=
  [default, switch, switchCompat, .group group, groupCompat group]

def path : Route → String
  | default => ""
  | switch => "/switch"
  | switchCompat => "/switch/compat"
  | group name => "/" ++ name
  | groupCompat name => "/" ++ name ++ "/compat"

/-- On these routes the gateway makes the model call tools. -/
def isCompat : Route → Bool
  | switchCompat => true
  | groupCompat _ => true
  | _ => false

def label : Route → String
  | default => "/"
  | other => other.path

end Route

end Conformance
