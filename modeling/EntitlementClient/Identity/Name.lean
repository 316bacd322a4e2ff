/-
Distinguished names: the attributes of a certificate's subject, the user id among them, and the
text of a name for people to read.
-/
import EntitlementClient.Identity.Der
import EntitlementClient.Identity.ShortName
import EntitlementClient.Text.Hex
import EntitlementClient.Text.Utf16
import EntitlementClient.Text.Utf8

namespace EntitlementClient

open EntitlementClient.Text EntitlementClient.Der

/-- An attribute of a name: the bytes of its type's object identifier, and the tag and the bytes of
its value. -/
structure Attribute where
  type : List UInt8
  tag : Nat
  value : List UInt8
deriving DecidableEq

/-- A name: groups of attributes. -/
abbrev Name : Type := List (List Attribute)

/-! ## Values -/

/-- How the bytes of a value stand for text. -/
inductive TextForm
  | utf8
  | utf16
  | hex

namespace TextForm

/-- The form of the values with a tag: most string types are UTF-8, and what is no string is shown
in hexadecimal. -/
def ofTag (tag : Nat) : TextForm :=
  if [7, 12, 18, 19, 20, 21, 22, 25, 26, 27].contains tag then .utf8
  else if tag = 30 then .utf16
  else .hex

/-- The text of some bytes; `none` if they are malformed. -/
def decode? (form : TextForm) (bytes : List UInt8) : Option (List Char) :=
  match form with
  | .utf8 => Utf8.decode? bytes
  | .utf16 => Utf16.decode? bytes
  | .hex => some (Hex.encodeUpper bytes)

end TextForm

namespace Attribute

/-- The text of the value for people to read. -/
def shown? (a : Attribute) : Option String :=
  ((TextForm.ofTag a.tag).decode? a.value).map String.ofList

/-- The attribute as its type, an equals sign and its value. -/
def assignment? (a : Attribute) : Option String :=
  let type := match ShortName.find? a.type with
    | some name => name
    | none => "OID(" ++ ObjectId.text a.type ++ ")"
  a.shown?.map fun value => type ++ "=" ++ value

/-- The value as plain text, which four string types have: UTF-8, numeric, printable and IA5. -/
def plainText? (a : Attribute) : Option String :=
  if [12, 18, 19, 22].contains a.tag then (Utf8.decode? a.value).map String.ofList else none

/-- Whether the attribute holds a user id. -/
def isUserId (a : Attribute) : Bool :=
  ObjectId.arcs? a.type == some ObjectId.userId

end Attribute

namespace Name

/-- The user id of a name: the first that is plain text. -/
def userId? (name : Name) : Option String :=
  name.flatten.findSome? fun a => if a.isUserId then a.plainText? else none

/-- The text of a name: groups with a comma between them, and their attributes with a plus sign. -/
def shown? (name : Name) : Option String := do
  let groups ← name.mapM fun group => do
    let assignments ← group.mapM Attribute.assignment?
    return String.intercalate " + " assignments
  return String.intercalate ", " groups

/-- The text of a name for people to read. One malformed value makes all of it unreadable. -/
def shown (name : Name) : String :=
  name.shown?.getD "<X509Error: Invalid X.509 name>"

end Name

/-! ## Reading -/

/-- What `f` makes of the items at the start of a list, up to the first that it refuses. -/
def leading {α β : Type} (f : α → Option β) : List α → List β
  | [] => []
  | a :: rest =>
    match f a with
    | some b => b :: leading f rest
    | none => []

/-- The attribute that an element holds: a sequence of an object identifier and a value. -/
def Attribute.ofElement? (element : Element) : Option Attribute :=
  if element.isSequence then
    match readIf Element.holdsObjectId element.content with
    | none => none
    | some (type, rest) =>
      (read? rest).map fun value => ⟨type.content, value.1.tag, value.1.content⟩
  else none

/-- The attributes of a group, of which there is at least one. -/
def Name.groupOfElement? (element : Element) : Option (List Attribute) :=
  if element.tag = Tag.set then
    match leading Attribute.ofElement? (elements element.content).1 with
    | [] => none
    | attributes => some attributes
  else none

/-- The name in the content of a sequence. It ends at the first group that is malformed. -/
def Name.ofContent (content : List UInt8) : Name :=
  leading Name.groupOfElement? (elements content).1

end EntitlementClient
