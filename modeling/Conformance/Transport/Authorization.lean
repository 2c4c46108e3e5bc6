import Conformance.Transport.Exchange

/-!
Credentials in an address are sent as a header.
-/

namespace Conformance.Transport

def base64Digits : List Char :=
  "ABCDEFGHIJKLMNOPQRSTUVWXYZabcdefghijklmnopqrstuvwxyz0123456789+/".toList

def base64Digit (n : Nat) : Char := base64Digits.getD n '='

/-- Three bytes as four digits; missing bytes are marked at the end. -/
def base64 : List Nat → List Char
  | a :: b :: c :: rest =>
    base64Digit (a / 4) :: base64Digit (a % 4 * 16 + b / 16) :: base64Digit (b % 16 * 4 + c / 64)
      :: base64Digit (c % 64) :: base64 rest
  | [a, b] =>
    [base64Digit (a / 4), base64Digit (a % 4 * 16 + b / 16), base64Digit (b % 16 * 4), '=']
  | [a] => [base64Digit (a / 4), base64Digit (a % 4 * 16), '=', '=']
  | [] => []

/-- The value of the header for a user name and a password. -/
def basicAuthorization (name password : List Char) : String :=
  "Basic " ++ String.ofList (base64 ((Url.utf8 (name ++ ':' :: password)).map UInt8.toNat))

/-- The credentials of an address as headers. -/
def credentialHeaders (u : Url) : Headers :=
  match u.credentials? with
  | none => []
  | some (name, password) => [("authorization", basicAuthorization name password)]

/-- The delivery with its credentials in the headers, unless the caller has set that header. -/
def Delivery.signed (d : Delivery) : Delivery :=
  { d with
    url := d.url.withoutCredentials
    headers := (credentialHeaders d.url).filter (fun h => !(d.headers.map Prod.fst).contains h.1)
      ++ d.headers }

end Conformance.Transport
