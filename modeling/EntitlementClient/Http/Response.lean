/-
Replies as the transport hands them on, and responses as a caller sees them: headers by name, the
body as text, and models decoded from the body.
-/
import EntitlementClient.Error
import EntitlementClient.Schema.Decoder
import EntitlementClient.Text.Utf8

namespace EntitlementClient.Http

open EntitlementClient.Text EntitlementClient.Schema

/-- A reply: headers in the order of their arrival, with the bytes of their values, and the text of
the body. Which character set the bytes of a body are in is for the transport to find out. A reply
with a status below 200 is not final, and a transport waits for the one that is; nothing here relies
on that. -/
structure Reply where
  status : Nat
  headers : List (String × List UInt8)
  body : String
  three_digits : 100 ≤ status ∧ status ≤ 999 := by decide

/-- What a transport makes of a message: no connection comes about, the connection is lost after the
message has been delivered, or a reply arrives. -/
inductive Outcome
  | unreachable
  | lost
  | reply (reply : Reply)

/-- Whether a reply with a status has a body. -/
def hasBody (status : Nat) : Bool :=
  status != 204 && status != 304

/-- A reply whose body arrives in UTF-8, where neither a header nor a mark at its start names another
character set. -/
def Reply.ofUtf8 (status : Nat) (headers : List (String × List UInt8)) (bytes : List UInt8)
    (three_digits : 100 ≤ status ∧ status ≤ 999) : Reply :=
  { status, headers, three_digits
    body := if hasBody status then String.ofList (Utf8.decodeBody bytes) else "" }

/-! ## Headers -/

/-- Whether a byte of a header's value can be shown: printing ASCII, a blank or a tab. -/
def isVisible (b : UInt8) : Bool :=
  (0x20 ≤ b && b < 0x7F) || b == 0x09

/-- The text of a header's value; a value with other bytes has none. -/
def headerText (value : List UInt8) : String :=
  if value.all isVisible then String.ofList (value.map fun b => Char.ofNat b.toNat) else ""

/-- A name with small letters for capital ones. -/
def lowerName (name : String) : String :=
  String.ofList (name.toList.map Char.toLower)

/-- The values of headers by their names in small letters, each name's in the order of their
arrival. -/
def groupHeaders (headers : List (String × List UInt8)) : NameMap (List String) :=
  headers.foldl
    (fun groups h =>
      -- names that differ only in their letters' case are one name
      let name := lowerName h.1
      groups.insert name ((groups.get? name).getD [] ++ [headerText h.2]))
    .empty

/-! ## Responses -/

/-- A response. -/
structure Response where
  code : Nat
  headers : NameMap (List String)
  body : String

namespace Response

/-- The response that a reply makes. -/
def ofReply (reply : Reply) : Response :=
  { code := reply.status
    headers := groupHeaders reply.headers
    body := reply.body }

/-- Whether the server did what it was asked to. -/
def isOk (response : Response) : Bool :=
  decide (200 ≤ response.code ∧ response.code ≤ 299)

/-- Whether the body holds nothing but white space. -/
def isEmpty (response : Response) : Bool :=
  isAllBlank response.body.toList

/-- The header in which the server names a request. -/
def requestIdHeader : String := "x-candlepin-request-uuid"

/-- The server's name for the request. -/
def requestId? (response : Response) : Option String :=
  (response.headers.get? requestIdHeader).bind List.head?

/-- The value in the body of a response from a path. -/
def decode {α : Type} (response : Response) (shape : Shape α) (path : String) :
    Except ClientError α :=
  match shape.decode response.body.toList with
  | .ok a => .ok a
  | .error fault => .error (.invalidJson path (fault.message response.body.toList))

/-- The value in the body of a response from a path; a body without content holds none. -/
def decodeOption {α : Type} (response : Response) (shape : Shape α) (path : String) :
    Except ClientError (Option α) :=
  if response.isEmpty then .ok none else (response.decode shape path).map some

end Response

end EntitlementClient.Http
