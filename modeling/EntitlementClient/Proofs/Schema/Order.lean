/-
What a value stands for does not depend on the order of its members: a value that stands for one of a
type stands for the same with its members in the order of their names.
-/
import EntitlementClient.Proofs.Schema.Encoding

namespace EntitlementClient.Schema

open EntitlementClient.Json

/-! ## Scalars and maps of texts -/

theorem pick?_sorted {α : Type} (pick : Scalar → Except Cause α) (json : Json) :
    json.sorted.pick? pick = json.pick? pick := by
  cases json <;> rfl

/-- Members that are put into a map of texts are texts. -/
theorem exists_texts_of_foldlM {members : List (String × Json)} {map final : NameMap String}
    (h : members.foldlM insertText map = some final) :
    ∃ texts : List (String × String), members = texts.map (fun e => (e.1, Json.text e.2)) ∧
      final = texts.foldl (fun map e => map.insert e.1 e.2) map := by
  induction members generalizing map with
  | nil => exact ⟨[], rfl, (Option.some.inj h).symm⟩
  | cons m rest ih =>
    obtain ⟨name, json⟩ := m
    rw [List.foldlM_cons] at h
    obtain ⟨next, put, h⟩ := Option.bind_eq_some_iff.1 h
    obtain ⟨texts, rfl, rfl⟩ := ih h
    cases json with
    | text s =>
      cases put
      exact ⟨(name, s) :: texts, rfl, rfl⟩
    | null | bool | number | array | object => cases put

theorem foldlM_insertText_sorted {members : List (String × Json)} {final : NameMap String}
    (h : members.foldlM insertText .empty = some final) :
    (sortedMembers members .empty).entries.foldlM insertText .empty = some final := by
  obtain ⟨texts, rfl, rfl⟩ := exists_texts_of_foldlM h
  have ordered : sortedMembers (texts.map fun e => (e.1, Json.text e.2)) .empty =
      (texts.foldl (fun map e => map.insert e.1 e.2) NameMap.empty).mapValues Json.text := by
    rw [sortedMembers_eq_foldl, NameMap.mapValues_foldl_insert, List.map_map]
    rfl
  rw [ordered, NameMap.mapValues, foldlM_insertText]
  exact congrArg some (NameMap.ofList_entries _)

/-! ## Members -/

/-- Whether members are those of another list in some order: of a repeated name the last. -/
def Reordered (members ordered : List (String × Json)) : Prop :=
  ∀ name, valuesOf name ordered = ((valuesOf name members).getLast?.map sorted).toList

theorem reordered_sortedMembers (members : List (String × Json)) :
    Reordered members (sortedMembers members .empty).entries := by
  intro name
  rw [NameMap.valuesOf_entries, get?_sortedMembers]

theorem Reordered.filter {members ordered : List (String × Json)} (h : Reordered members ordered) (p : String → Bool) :
    Reordered (members.filter fun m => p m.1) (ordered.filter fun m => p m.1) := by
  intro name
  simp only [valuesOf_filter]
  cases p name with
  | false => simp
  | true => simpa using h name

theorem Reordered.sortedMembers_eq {members ordered : List (String × Json)} (h : Reordered members ordered) :
    sortedMembers ordered .empty = sortedMembers members .empty := by
  refine NameMap.ext_get? fun name => ?_
  rw [get?_sortedMembers, get?_sortedMembers, h name]
  cases (valuesOf name members).getLast? with
  | none => rfl
  | some json => exact congrArg some json.sorted_sorted

/-- At most one value is left of a name if more than one is one too many. -/
theorem soleValue_reordered {α : Type} {absent : Option α} {ofJson : Json → Option α} {values : List Json} {a : α}
    (each : ∀ json, ofJson json = some a → ofJson json.sorted = some a) (h : soleValue absent ofJson values = some a) :
    soleValue absent ofJson (values.getLast?.map sorted).toList = some a := by
  match values, h with
  | [], h => exact h
  | [json], h => exact each json h

/-! ## Models -/

mutual

/-- The order of the members does not matter. -/
theorem Shape.ofJson_sorted : {α : Type} → (shape : Shape α) → {json : Json} → {a : α} →
    shape.ofJson json = some a → shape.ofJson json.sorted = some a
  | _, .text, json, _, h => (pick?_sorted pickText json).trans h
  | _, .flag, json, _, h => (pick?_sorted pickFlag json).trans h
  | _, .unsigned, json, _, h => (pick?_sorted pickUnsigned json).trans h
  | _, .signed, json, _, h => (pick?_sorted pickSigned json).trans h
  | _, .date, json, _, h => (pick?_sorted pickDate json).trans h
  | _, .json, json, _, h => by
    rw [Shape.ofJson, json.sorted_sorted]
    exact h
  | _, .texts, json, _, h => by
    rw [Shape.ofJson_texts] at h
    obtain ⟨_, _, h⟩ | ⟨members, rfl, h⟩ := exists_of_ofBrackets_eq_some h
    · cases h
    · exact foldlM_insertText_sorted h
  | _, .list item, json, _, h => by
    rw [Shape.ofJson_list] at h
    obtain ⟨items, rfl, h⟩ | ⟨_, _, h⟩ := exists_of_ofBrackets_eq_some h
    · rw [Json.sorted, Shape.ofJson, sortedItems_eq_map, mapM_eq_some_iff, List.forall₂_map_left_iff]
      exact (mapM_eq_some_iff.1 h).imp fun _ _ found => item.ofJson_sorted found
    · cases h
  | _, .record model fields form, json, _, h => by
    rw [Shape.ofJson_record] at h
    obtain ⟨items, rfl, h⟩ | ⟨members, rfl, h⟩ := exists_of_ofBrackets_eq_some h
    · obtain ⟨row, ofItems, rfl⟩ := Option.map_eq_some_iff.1 h
      rw [Json.sorted, Shape.ofJson, fields.ofItems_sorted ofItems]
      rfl
    · obtain ⟨row, ofMembers, rfl⟩ := Option.map_eq_some_iff.1 h
      rw [Json.sorted, Shape.ofJson, fields.ofMembers_reordered (reordered_sortedMembers members) ofMembers]
      rfl
  | _, .openRecord model fields extra form, json, _, h => by
    rw [Shape.ofJson_openRecord] at h
    obtain ⟨_, _, h⟩ | ⟨members, rfl, h⟩ := exists_of_ofBrackets_eq_some h
    · cases h
    obtain ⟨row, ofMembers, rfl⟩ := Option.map_eq_some_iff.1 h
    have reordered := reordered_sortedMembers members
    have unknown : sortedMembers (fields.unknown (sortedMembers members .empty).entries) .empty =
        sortedMembers (fields.unknown members) .empty :=
      (reordered.filter fun name => name ∉ fields.wireNames).sortedMembers_eq
    rw [Json.sorted, Shape.ofJson, fields.ofMembers_reordered reordered ofMembers, unknown]
    rfl

theorem Fields.ofMembers_reordered : {β : Type} → (fields : Fields β) → {members ordered : List (String × Json)} →
    {row : β} → Reordered members ordered → fields.ofMembers members = some row → fields.ofMembers ordered = some row
  | _, .nil, _, _, _, _, h => h
  | _, .cons field rest, members, ordered, row, reordered, h => by
    obtain ⟨a, own, h⟩ := Option.bind_eq_some_iff.1 h
    obtain ⟨others, tail, rfl⟩ := Option.map_eq_some_iff.1 h
    rw [Fields.ofMembers, reordered field.name.wire, soleValue_reordered (fun _ h => field.ofJson_sorted h) own,
      rest.ofMembers_reordered (reordered.filter fun name => name ≠ field.name.wire) tail]
    rfl

theorem Fields.ofItems_sorted : {β : Type} → (fields : Fields β) → {items : List Json} → {row : β} →
    fields.ofItems items = some row → fields.ofItems (sortedItems items) = some row
  | _, .nil, [], _, h => h
  | _, .cons field rest, [], _, h => h
  | _, .cons field rest, json :: items, row, h => by
    obtain ⟨a, own, h⟩ := Option.bind_eq_some_iff.1 h
    obtain ⟨others, tail, rfl⟩ := Option.map_eq_some_iff.1 h
    rw [sortedItems, Fields.ofItems, field.ofJson_sorted own, rest.ofItems_sorted tail]
    rfl

theorem Field.ofJson_sorted : {α : Type} → (field : Field α) → {json : Json} → {a : α} →
    field.ofJson json = some a → field.ofJson json.sorted = some a
  | _, .required _ shape, _, _, h => shape.ofJson_sorted h
  | _, .optional _ shape, json, _, h => by
    by_cases null : json = .null
    · subst null
      exact h
    · rw [Field.ofJson, nullable_of_ne_null _ null] at h
      obtain ⟨a, value, rfl⟩ := Option.map_eq_some_iff.1 h
      have ne : json.sorted ≠ .null := by cases json <;> simp_all [Json.sorted]
      rw [Field.ofJson, nullable_of_ne_null _ ne, shape.ofJson_sorted value, Option.map_some]
  | _, .defaulted _ shape _, _, _, h => shape.ofJson_sorted h

end

end EntitlementClient.Schema
