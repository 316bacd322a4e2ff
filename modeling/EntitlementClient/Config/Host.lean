/-
Hosts: bare names and bracketed addresses, without scheme, port or path.
-/
import EntitlementClient.Error
import EntitlementClient.Text.Blank
import EntitlementClient.Text.Hex
import EntitlementClient.Text.Quoted

namespace EntitlementClient

open EntitlementClient.Text

namespace Host

/-- The text between brackets. -/
def bracketed? : List Char → Option (List Char)
  | '[' :: rest => if rest.getLast? = some ']' then some rest.dropLast else none
  | _ => none

/-- Whether a character can stand in an address between brackets. -/
def isAddressChar (c : Char) : Bool :=
  (Hex.value? c).isSome || c == ':' || c == '.'

/-- Whether a character cannot stand in a host name: it would end the name, or it is white space. -/
def endsName (c : Char) : Bool :=
  "/?#@:[]".toList.contains c || isBlank c

/-- Whether a text is a host: an address between brackets, or a name. -/
def isHost (s : List Char) : Bool :=
  match bracketed? s with
  | some address => !address.isEmpty && address.all isAddressChar
  | none => !s.isEmpty && s.all fun c => !endsName c

end Host

/-- The host of a server. -/
structure Host where
  text : String
  valid : Host.isHost text.toList = true

namespace Host

/-- The host of a text without the white space around it. -/
def of (raw : String) : Except ClientError Host :=
  let text := String.ofList (trim raw.toList)
  if h : isHost text.toList = true then .ok ⟨text, h⟩ else .error (.invalidHost text)

/-- The host that is taken if none is given. -/
def standard : Host :=
  ⟨"localhost", by decide⟩

/-- The text for people to read. -/
def inspect (host : Host) : String :=
  "Host(" ++ Quoted.quote host.text ++ ")"

end Host

end EntitlementClient
