/-
Text for people to read: a model with the names of its fields, and a mask in place of what is
hidden.
-/
import EntitlementClient.Schema.Basic

namespace EntitlementClient

open EntitlementClient.Text

/-- Texts with a comma and a blank between them. -/
def commaSeparated (texts : List String) : String :=
  String.intercalate ", " texts

/-- The text for people to read of a map whose values have been put in such text. -/
def inspectEntries (entries : List (String × String)) : String :=
  "\x7b" ++ commaSeparated (entries.map fun e => Quoted.quote e.1 ++ ": " ++ e.2) ++ "\x7d"

/-- The text for people to read of a record whose fields have been put in such text. -/
def inspectFields (model : String) (fields : List (String × String)) : String :=
  model ++ " \x7b " ++ commaSeparated (fields.map fun f => f.1 ++ ": " ++ f.2) ++ " \x7d"

/-- The text for people to read of a value that may be absent. -/
def inspectOption {α : Type} (inspect : α → String) : Option α → String
  | none => "None"
  | some a => "Some(" ++ inspect a ++ ")"

/-- The text for people to read of a truth value. -/
def inspectBool : Bool → String
  | true => "true"
  | false => "false"

/-- What stands for a hidden text. -/
def mask : String := Quoted.quote "*****"

namespace Json

mutual

/-- The text for people to read of a JSON value. -/
def inspect : Json → String
  | .null => "Null"
  | .bool b => "Bool(" ++ inspectBool b ++ ")"
  | .number n => "Number(" ++ String.ofList n.write ++ ")"
  | .text s => "String(" ++ Quoted.quote s ++ ")"
  | .array items => "Array [" ++ commaSeparated (inspectItems items) ++ "]"
  | .object members => "Object " ++ inspectEntries (inspectMembers members)
termination_by structural json => json

/-- The texts of the items of an array. -/
def inspectItems : List Json → List String
  | [] => []
  | json :: rest => json.inspect :: inspectItems rest
termination_by structural items => items

/-- The names and the texts of the members of an object. -/
def inspectMembers : List (String × Json) → List (String × String)
  | [] => []
  | (name, json) :: rest => (name, json.inspect) :: inspectMembers rest
termination_by structural members => members

end

end Json

namespace Schema

mutual

/-- The text for people to read of a value. -/
def Shape.inspect : {α : Type} → Shape α → α → String
  | _, .text, s => Quoted.quote s
  | _, .flag, b => inspectBool b
  | _, .unsigned, n => toString n.toNat
  | _, .signed, n => String.ofList (Json.writeInt n.toInt)
  | _, .date, d => String.ofList d.text
  | _, .json, json => json.inspect
  | _, .texts, map => inspectEntries (map.entries.map fun e => (e.1, Quoted.quote e.2))
  | _, .list item, items => "[" ++ commaSeparated (items.map item.inspect) ++ "]"
  | _, .record model fields form, a => inspectFields model (fields.inspect (form.fields a))
  | _, .openRecord model fields extra form, a =>
    inspectFields model (fields.inspect (form.fields a).1 ++
      [(extra, inspectEntries ((form.fields a).2.entries.map fun e => (e.1, e.2.inspect)))])

/-- The labels and the texts of a row of fields. -/
def Fields.inspect : {β : Type} → Fields β → β → List (String × String)
  | _, .nil, _ => []
  | _, .cons field rest, row => (field.name.label, field.inspect row.1) :: rest.inspect row.2

/-- The text for people to read of a field: of a hidden one only whether it is there. -/
def Field.inspect : {α : Type} → Field α → α → String
  | _, .required name shape, a => if name.hidden then mask else shape.inspect a
  | _, .optional name shape, a =>
    inspectOption (fun a => if name.hidden then mask else shape.inspect a) a
  | _, .defaulted name shape _, a => if name.hidden then mask else shape.inspect a

end

end Schema

end EntitlementClient
