import Conformance.Config.Basic
import Conformance.Json.Writer
import Conformance.Log.Entry

/-!
Entries of the log as lines: for people, or as JSON objects.
-/

namespace Conformance.Log

/-- A value for people: text as it is. -/
def plainValue : Json → String
  | .string s => s
  | other => other.compact

def plainField (field : String × Json) : String :=
  if field.1 = "message" then plainValue field.2 else field.1 ++ ": " ++ plainValue field.2

def prettyLine (time : String) (e : Entry) : String :=
  "  " ++ time ++ " " ++ e.level.name ++ " " ++ e.target ++ ": "
    ++ String.intercalate ", " (e.fields.map plainField)

def jsonLine (time : String) (e : Entry) : String :=
  (Json.object [("timestamp", .string time), ("level", .string e.level.name),
    ("fields", .object e.fields), ("target", .string e.target)]).compact

def line (format : LogFormat) (time : String) (e : Entry) : String :=
  match format with
  | .pretty => prettyLine time e
  | .json => jsonLine time e

end Conformance.Log
