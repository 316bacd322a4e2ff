/-
Credentials: a username with a password, or an identity certificate.
-/
import EntitlementClient.Identity.Basic

namespace EntitlementClient

open EntitlementClient.Text

/-- A username, which is not blank. -/
structure Username where
  text : String
  not_blank : isAllBlank text.toList = false

namespace Username

/-- The username of a text, kept as it is. -/
def of (text : String) : Except ClientError Username :=
  if h : isAllBlank text.toList = false then .ok ⟨text, h⟩ else .error .emptyUsername

/-- The text for people to read. -/
def inspect (username : Username) : String :=
  "Username(" ++ Quoted.quote username.text ++ ")"

end Username

/-- A password. -/
structure Password where
  text : String

/-- The text for people to read, which shows nothing of the password. -/
def Password.inspect (_ : Password) : String :=
  "Password(*****)"

/-- How a client makes itself known to the server. -/
inductive Credentials
  | basic (username : Username) (password : Password)
  | certificate (identity : IdentityCertificate)

namespace Credentials

/-- The uuid of the consumer that the credentials stand for. -/
def uuid? : Credentials → Option String
  | .basic _ _ => none
  | .certificate identity => some identity.uuid

/-- The identity certificate. -/
def identity? : Credentials → Option IdentityCertificate
  | .basic _ _ => none
  | .certificate identity => some identity

/-- The name of the way in which the client makes itself known. -/
def mode : Credentials → String
  | .basic _ _ => "basic"
  | .certificate _ => "certificate"

/-- The text for people to read. -/
def inspect : Credentials → String
  | .basic username password =>
    inspectFields "Basic" [("username", username.inspect), ("password", password.inspect)]
  | .certificate identity => "Certificate(" ++ identity.inspect ++ ")"

end Credentials

end EntitlementClient
