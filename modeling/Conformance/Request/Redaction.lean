import Conformance.Text.Split

/-!
URLs without the API key, for reports and logs.
-/

namespace Conformance.Redaction

def keyName : List Char := ['k', 'e', 'y']

def masked : List Char := ['k', 'e', 'y', '=', '*', '*', '*']

/-- Masks the value of a parameter named `key`, unless it is empty. -/
def maskParameter (parameter : List Char) : List Char :=
  match Text.cutAt '=' parameter with
  | some (name, value) => if name = keyName ∧ value ≠ [] then masked else parameter
  | none => parameter

/-- Masks the parameters after the first question mark. -/
def maskChars (cs : List Char) : List Char :=
  match Text.cutAt '?' cs with
  | some (before, query) =>
    before ++ '?' :: Text.joinWith '&' ((Text.splitAt '&' query).map maskParameter)
  | none => cs

def mask (url : String) : String :=
  String.ofList (maskChars url.toList)

end Conformance.Redaction
