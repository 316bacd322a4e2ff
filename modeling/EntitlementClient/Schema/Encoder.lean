/-
Encoding by a schema: the JSON value of a model, with the members of its objects in the order of the
fields.
-/
import EntitlementClient.Schema.Basic

namespace EntitlementClient.Schema

mutual

/-- The JSON value of a value. -/
def Shape.encode : {α : Type} → Shape α → α → Json
  | _, .text, s => .text s
  | _, .flag, b => .bool b
  | _, .unsigned, n => .number (.ofUInt64 n)
  | _, .signed, n => .number (.ofInt64 n)
  | _, .date, d => .text (String.ofList d.text)
  | _, .json, json => json
  | _, .texts, map => .object (map.entries.map fun e => (e.1, .text e.2))
  | _, .list item, items => .array (items.map item.encode)
  | _, .record _ fields form, a => .object (fields.encode (form.fields a))
  | _, .openRecord _ fields _ form, a =>
    .object (fields.encode (form.fields a).1 ++ (form.fields a).2.entries)

/-- The members of a row of fields. -/
def Fields.encode : {β : Type} → Fields β → β → List (String × Json)
  | _, .nil, _ => []
  | _, .cons field rest, row => field.encode row.1 ++ rest.encode row.2

/-- The member of a field, or none if it is left out. -/
def Field.encode : {α : Type} → Field α → α → List (String × Json)
  | _, .required name shape, a => [(name.wire, shape.encode a)]
  | _, .optional _ _, none => []
  | _, .optional name shape, some a => [(name.wire, shape.encode a)]
  | _, .defaulted name shape default, a =>
    if default.omits a then [] else [(name.wire, shape.encode a)]

end

/-- The text of a value with its fields in order. -/
def Shape.render {α : Type} (shape : Shape α) (a : α) : String :=
  (shape.encode a).render

/-- The JSON value that is posted for a value: its members are in the order of their names. -/
def Shape.document {α : Type} (shape : Shape α) (a : α) : Json :=
  (shape.encode a).sorted

end EntitlementClient.Schema
