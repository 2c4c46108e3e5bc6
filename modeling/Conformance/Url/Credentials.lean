import Conformance.Url.Basic

/-!
User name and password in a URL. A client takes them out and sends them in a header.
-/

namespace Conformance.Url

/-- User name and password, unless there is nothing in them. A password that is no text is left
out, and with a name that is no text there are none. -/
def credentials? (u : Url) : Option (List Char × List Char) := do
  let name ← ofUtf8? (percentDecode u.username)
  let password := (ofUtf8? (percentDecode u.password)).getD []
  if name.isEmpty && password.isEmpty then none else some (name, password)

/-- What is left of a URL when its credentials are taken out. -/
def withoutCredentials (u : Url) : Url :=
  if u.credentials?.isSome then { u with username := [], password := [] } else u

/-- What a server is asked for: the URL without user name, password and fragment. -/
def requested (u : Url) : Url :=
  { u with username := [], password := [], fragment := none }

theorem withoutCredentials_of_bare {u : Url} (hn : u.username = []) (hp : u.password = []) :
    u.withoutCredentials = u := by
  unfold withoutCredentials
  split
  · rw [← hn, hn, ← hp, hp]
    cases u
    simp_all
  · rfl

theorem withoutCredentials_fragment (u : Url) (fragment : Option (List Char)) :
    { u with fragment := fragment }.withoutCredentials =
      { u.withoutCredentials with fragment := fragment } := by
  have hcredentials : { u with fragment := fragment }.credentials? = u.credentials? := rfl
  unfold withoutCredentials
  rw [hcredentials]
  split <;> rfl

/-- The pairs of a query stand apart from the credentials. -/
theorem withoutCredentials_withPair (u : Url) (name value : String) :
    (u.withPair name value).withoutCredentials = u.withoutCredentials.withPair name value := by
  have hcredentials : (u.withPair name value).credentials? = u.credentials? := rfl
  unfold withoutCredentials
  rw [hcredentials]
  split <;> rfl

end Conformance.Url
