/-
Messages: requests as they are handed to the transport, with their full URL and all the headers that
the client gives them.
-/
import EntitlementClient.Http.Request
import EntitlementClient.Http.Target

namespace EntitlementClient.Http

/-- A request as it is handed to the transport. -/
structure Message where
  method : Method
  url : String
  headers : List (String × String)
  body : Option String
deriving DecidableEq

/-- Whether a character can stand in the name of a header. -/
def isNameChar (c : Char) : Bool :=
  c.isAlphanum || "!#$%&'*+-.^_\x60|~".toList.contains c

/-- Whether a text can be the name of a header. -/
def isHeaderName (name : String) : Bool :=
  !name.toList.isEmpty && name.toList.all isNameChar

/-- Whether a text can be the value of a header: it holds no controls but tabs. -/
def isHeaderValue (value : String) : Bool :=
  value.toList.all fun c => (decide (0x20 ≤ c.toNat) && c.toNat != 0x7F) || c == '\t'

/-- Whether a message can be sent at all. -/
def Message.isSendable (message : Message) : Bool :=
  (Target.ofUrl? message.url).isSome &&
    message.headers.all fun h => isHeaderName h.1 && isHeaderValue h.2

end EntitlementClient.Http
