/-
What a JSON value stands for by a schema, told of the value as a whole and not of its text: which
value of a type it is, or that it is none.
-/
import EntitlementClient.Proofs.Json.Sorted
import EntitlementClient.Schema.Decoder
import Mathlib.Data.List.Forall2

namespace EntitlementClient

open EntitlementClient.Json

namespace Json

/-- The scalar that a value is. -/
def scalar? : Json → Option Scalar
  | .null => some .null
  | .bool b => some (.bool b)
  | .number n => some (.number n)
  | .text s => some (.text s)
  | .array _ => none
  | .object _ => none

@[simp] theorem scalar?_json (value : Scalar) : value.json.scalar? = some value := by
  cases value <;> rfl

/-- What a value stands for where a scalar is wanted. -/
def pick? {α : Type} (pick : Scalar → Except Cause α) (json : Json) : Option α :=
  json.scalar?.bind fun value => (pick value).toOption

end Json

namespace Schema

/-- The members that are none of the fields. -/
def Fields.unknown {β : Type} (fields : Fields β) (members : List (String × Json)) : List (String × Json) :=
  members.filter fun m => m.1 ∉ fields.wireNames

/-- The text of a member is put into a map. -/
def insertText (map : NameMap String) (m : String × Json) : Option (NameMap String) :=
  (m.2.pick? pickText).map (map.insert m.1)

/-- What stands for a field that a list is too short to hold. -/
def Field.missingFromRow : {α : Type} → Field α → Option α
  | _, .required _ _ => none
  | _, .optional _ _ => none
  | _, .defaulted _ _ default => some default.value

/-- What the values of one name stand for: there is one of them at most. -/
def soleValue {α : Type} (absent : Option α) (ofJson : Json → Option α) : List Json → Option α
  | [] => absent
  | [json] => ofJson json
  | _ :: _ :: _ => none

/-- What a value that may be null stands for. -/
def nullable {α : Type} (ofJson : Json → Option α) : Json → Option (Option α)
  | .null => some none
  | json => (ofJson json).map some

theorem nullable_of_ne_null {α : Type} (ofJson : Json → Option α) {json : Json} (ne : json ≠ .null) :
    nullable ofJson json = (ofJson json).map some := by
  cases json with
  | null => exact absurd rfl ne
  | bool | number | text | array | object => rfl

mutual

/-- The value that a JSON value stands for. -/
def Shape.ofJson : {α : Type} → Shape α → Json → Option α
  | _, .text, json => json.pick? pickText
  | _, .flag, json => json.pick? pickFlag
  | _, .unsigned, json => json.pick? pickUnsigned
  | _, .signed, json => json.pick? pickSigned
  | _, .date, json => json.pick? pickDate
  | _, .json, json => some json.sorted
  | _, .texts, .object members => members.foldlM insertText .empty
  | _, .texts, _ => none
  | _, .list item, .array items => items.mapM item.ofJson
  | _, .list _, _ => none
  | _, .record _ fields form, .object members => (fields.ofMembers members).map form.ofFields
  | _, .record _ fields form, .array items => (fields.ofItems items).map form.ofFields
  | _, .record _ _ _, _ => none
  | _, .openRecord _ fields _ form, .object members =>
    (fields.ofMembers members).map fun row => form.ofFields (row, sortedMembers (fields.unknown members) .empty)
  | _, .openRecord _ _ _ _, _ => none

/-- The row of fields that the members of an object stand for. A field takes all members of its name;
the fields after it are left the others. -/
def Fields.ofMembers : {β : Type} → Fields β → List (String × Json) → Option β
  | _, .nil, _ => some ()
  | _, .cons field rest, members =>
    (soleValue field.absent.toOption field.ofJson (valuesOf field.name.wire members)).bind fun a =>
      (rest.ofMembers (members.filter fun m => m.1 ≠ field.name.wire)).map fun b => (a, b)

/-- The row of fields that the items of a list stand for. -/
def Fields.ofItems : {β : Type} → Fields β → List Json → Option β
  | _, .nil, [] => some ()
  | _, .nil, _ :: _ => none
  | _, .cons field rest, [] => field.missingFromRow.bind fun a => (rest.ofItems []).map fun b => (a, b)
  | _, .cons field rest, json :: items =>
    (field.ofJson json).bind fun a => (rest.ofItems items).map fun b => (a, b)

/-- What the value of a field stands for. -/
def Field.ofJson : {α : Type} → Field α → Json → Option α
  | _, .required _ shape, json => shape.ofJson json
  | _, .optional _ shape, json => nullable shape.ofJson json
  | _, .defaulted _ shape _, json => shape.ofJson json

end

/-! ## Lists -/

theorem mapM_eq_some_iff {α β : Type} {f : α → Option β} {items : List α} {values : List β} :
    items.mapM f = some values ↔ List.Forall₂ (fun a b => f a = some b) items values := by
  induction items generalizing values with
  | nil => simp [eq_comm]
  | cons a rest ih =>
    rw [List.mapM_cons, List.forall₂_cons_left_iff]
    constructor
    · intro h
      obtain ⟨b, head, h⟩ := Option.bind_eq_some_iff.1 h
      obtain ⟨others, tail, h⟩ := Option.bind_eq_some_iff.1 h
      cases h
      exact ⟨b, others, head, ih.1 tail, rfl⟩
    · rintro ⟨b, others, head, tail, rfl⟩
      rw [head, ih.2 tail]
      rfl

theorem exists_of_mem_mapM {α β : Type} {f : α → Option β} {items : List α} {values : List β}
    (h : items.mapM f = some values) {b : β} (mem : b ∈ values) : ∃ a ∈ items, f a = some b := by
  have all := mapM_eq_some_iff.1 h
  clear h
  induction all with
  | nil => cases mem
  | cons head _ ih =>
    rcases List.mem_cons.1 mem with rfl | mem
    · exact ⟨_, List.mem_cons_self, head⟩
    · obtain ⟨a, ha, found⟩ := ih mem
      exact ⟨a, List.mem_cons_of_mem _ ha, found⟩

/-! ## Brackets -/

/-- What a value stands for where brackets are wanted. -/
def ofBrackets {α : Type} (square : List Json → Option α) (curly : List (String × Json) → Option α) : Json → Option α
  | .array items => square items
  | .object members => curly members
  | _ => none

theorem exists_of_ofBrackets_eq_some {α : Type} {square : List Json → Option α}
    {curly : List (String × Json) → Option α} {json : Json} {a : α} (h : ofBrackets square curly json = some a) :
    (∃ items, json = .array items ∧ square items = some a) ∨
      ∃ members, json = .object members ∧ curly members = some a := by
  cases json with
  | null | bool | number | text => cases h
  | array items => exact .inl ⟨items, rfl, h⟩
  | object members => exact .inr ⟨members, rfl, h⟩

variable {α β : Type} (json : Json)

theorem Shape.ofJson_texts :
    Shape.texts.ofJson json = ofBrackets (fun _ => none) (·.foldlM insertText .empty) json := by
  cases json <;> rfl

theorem Shape.ofJson_list (item : Shape α) :
    (Shape.list item).ofJson json = ofBrackets (·.mapM item.ofJson) (fun _ => none) json := by
  cases json <;> rfl

theorem Shape.ofJson_record (model : String) (fields : Fields β) (form : Form α β) :
    (Shape.record model fields form).ofJson json =
      ofBrackets (fun items => (fields.ofItems items).map form.ofFields)
        (fun members => (fields.ofMembers members).map form.ofFields) json := by
  cases json <;> rfl

theorem Shape.ofJson_openRecord (model : String) (fields : Fields β) (extra : String)
    (form : Form α (β × NameMap Json)) :
    (Shape.openRecord model fields extra form).ofJson json =
      ofBrackets (fun _ => none) (fun members => (fields.ofMembers members).map fun row =>
        form.ofFields (row, sortedMembers (fields.unknown members) .empty)) json := by
  cases json <;> rfl

end Schema

end EntitlementClient
