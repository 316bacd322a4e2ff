/-
Schemas: how a value of a model is laid out in JSON. One description of a model serves the encoder,
the decoder and the text for people to read.
-/
import EntitlementClient.Json.Reader

namespace EntitlementClient.Schema

/-- How a field is called in JSON and in text for people to read, and whether that text hides its
content. -/
structure FieldName where
  wire : String
  label : String
  hidden : Bool

namespace FieldName

/-- A field with one name for both uses. -/
def plain (name : String) : FieldName := ⟨name, name, false⟩

/-- A field with a name for each use. -/
def labelled (wire label : String) : FieldName := ⟨wire, label, false⟩

/-- A field whose content is hidden from text for people to read. -/
def secret (name : String) : FieldName := ⟨name, name, true⟩

end FieldName

/-- A one-to-one correspondence between a model and the row of its fields. -/
structure Form (α β : Type) where
  fields : α → β
  ofFields : β → α
  ofFields_fields : ∀ a, ofFields (fields a) = a
  fields_ofFields : ∀ b, fields (ofFields b) = b

/-- What stands for a field that is absent, and which values are left out when they are written:
no others than that one. -/
structure Default (α : Type) where
  value : α
  omits : α → Bool
  eq_of_omits : ∀ a, omits a = true → a = value

namespace Default

/-- An absent list is empty, and the empty list is left out. -/
def emptyList {α : Type} : Default (List α) :=
  ⟨[], List.isEmpty, fun _ h => List.isEmpty_iff.mp h⟩

/-- An absent list is empty, but the empty list is written. -/
def shownList {α : Type} : Default (List α) :=
  ⟨[], fun _ => false, fun _ h => nomatch h⟩

/-- An absent map is empty, and the empty map is left out. -/
def emptyMap {α : Type} : Default (NameMap α) :=
  ⟨.empty, NameMap.isEmpty, fun _ h => NameMap.ext (List.isEmpty_iff.mp h)⟩

end Default

mutual

/-- How the values of a type are laid out in JSON. A record is an object with the given fields, or a
list of their values in order; an open record is an object that keeps the members that are no fields
in a map of their own. -/
inductive Shape : Type → Type 1
  | text : Shape String
  | flag : Shape Bool
  | unsigned : Shape UInt64
  | signed : Shape Int64
  | date : Shape Date
  | json : Shape Json
  | texts : Shape (NameMap String)
  | list {α : Type} (item : Shape α) : Shape (List α)
  | record {α β : Type} (model : String) (fields : Fields β) (form : Form α β) : Shape α
  | openRecord {α β : Type} (model : String) (fields : Fields β) (extra : String)
      (form : Form α (β × NameMap Json)) : Shape α

/-- The fields of a record in order. -/
inductive Fields : Type → Type 1
  | nil : Fields Unit
  | cons {α β : Type} (field : Field α) (rest : Fields β) : Fields (α × β)

/-- A field: one that must be there, one that may be absent or null, or one whose absence stands for
a value of its own. -/
inductive Field : Type → Type 1
  | required {α : Type} (name : FieldName) (shape : Shape α) : Field α
  | optional {α : Type} (name : FieldName) (shape : Shape α) : Field (Option α)
  | defaulted {α : Type} (name : FieldName) (shape : Shape α) (default : Default α) : Field α

end

/-- The names of a field. -/
def Field.name {α : Type} : Field α → FieldName
  | .required name _ => name
  | .optional name _ => name
  | .defaulted name _ _ => name

/-- How many fields a record has. -/
def Fields.size : {β : Type} → Fields β → Nat
  | _, .nil => 0
  | _, .cons _ rest => rest.size + 1

/-- The names of the fields in JSON. -/
def Fields.wireNames : {β : Type} → Fields β → List String
  | _, .nil => []
  | _, .cons field rest => field.name.wire :: rest.wireNames

end EntitlementClient.Schema
