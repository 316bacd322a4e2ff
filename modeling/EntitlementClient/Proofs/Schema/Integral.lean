/-
Decoding brings in no number of its own: a value has integers for its numbers if the JSON has that it is
decoded from.
-/
import EntitlementClient.Proofs.Schema.Encoding

namespace EntitlementClient.Schema

open EntitlementClient.Json

variable {α β : Type}

theorem membersIntegral_texts (texts : List (String × String)) :
    membersIntegral (texts.map fun e => (e.1, Json.text e.2)) = true := by
  rw [membersIntegral_iff]
  rintro _ hm
  obtain ⟨e, -, rfl⟩ := List.mem_map.1 hm
  rfl

theorem integral_valuesOf {members : List (String × Json)} (h : ∀ m ∈ members, m.2.integral = true) (name : String) :
    ∀ json ∈ valuesOf name members, json.integral = true :=
  fun _ mem => h _ (mem_valuesOf.1 mem)

theorem Field.integral_absent {field : Field α} (lawful : field.Lawful) {a : α} (h : field.absent.toOption = some a) :
    ∀ m ∈ field.encode a, m.2.integral = true := by
  intro m hm
  cases field with
  | required name shape => cases h
  | optional name shape =>
    cases h
    exact absurd hm List.not_mem_nil
  | defaulted name shape default =>
    cases h
    rw [eq_of_mem_encode_defaulted hm]
    exact lawful.2.2

theorem Field.absent_of_missingFromRow {field : Field α} {a : α} (h : field.missingFromRow = some a) :
    field.absent.toOption = some a := by
  cases field with
  | required name shape => cases h
  | optional name shape => cases h
  | defaulted name shape default => exact h

mutual

/-- The JSON of a value has integers for its numbers if the JSON that it stands for has. -/
theorem Shape.integral_encode : {α : Type} → (shape : Shape α) → shape.Lawful → {json : Json} → {a : α} →
    shape.ofJson json = some a → json.integral = true → (shape.encode a).integral = true
  | _, .text, _, _, _, _, _ => rfl
  | _, .flag, _, _, _, _, _ => rfl
  | _, .unsigned, _, _, _, _, _ => rfl
  | _, .signed, _, _, _, _, _ => rfl
  | _, .date, _, _, _, _, _ => rfl
  | _, .json, _, json, _, h, integral => by
    cases h
    exact integral_sorted integral
  | _, .texts, _, _, map, _, _ => membersIntegral_texts map.entries
  | _, .list item, lawful, json, values, h, integral => by
    rw [Shape.ofJson_list] at h
    obtain ⟨items, rfl, h⟩ | ⟨_, _, h⟩ := exists_of_ofBrackets_eq_some h
    · refine itemsIntegral_iff.2 fun encoded mem => ?_
      obtain ⟨a, ha, rfl⟩ := List.mem_map.1 mem
      obtain ⟨json, hj, found⟩ := exists_of_mem_mapM h ha
      exact item.integral_encode lawful found (itemsIntegral_iff.1 integral json hj)
    · cases h
  | _, .record model fields form, lawful, json, a, h, integral => by
    rw [Shape.ofJson_record] at h
    obtain ⟨items, rfl, h⟩ | ⟨members, rfl, h⟩ := exists_of_ofBrackets_eq_some h
    · obtain ⟨row, found, rfl⟩ := Option.map_eq_some_iff.1 h
      rw [Shape.encode, form.fields_ofFields]
      exact membersIntegral_iff.2 (fields.integral_of_items lawful found (itemsIntegral_iff.1 integral))
    · obtain ⟨row, found, rfl⟩ := Option.map_eq_some_iff.1 h
      rw [Shape.encode, form.fields_ofFields]
      exact membersIntegral_iff.2 (fields.integral_of_members lawful found (membersIntegral_iff.1 integral))
  | _, .openRecord model fields extra form, lawful, json, a, h, integral => by
    rw [Shape.ofJson_openRecord] at h
    obtain ⟨_, _, h⟩ | ⟨members, rfl, h⟩ := exists_of_ofBrackets_eq_some h
    · cases h
    obtain ⟨row, found, rfl⟩ := Option.map_eq_some_iff.1 h
    have each := membersIntegral_iff.1 integral
    rw [Shape.encode, form.fields_ofFields]
    refine membersIntegral_iff.2 fun m hm => ?_
    rcases List.mem_append.1 hm with hm | hm
    · exact fields.integral_of_members lawful found each m hm
    · obtain ⟨raw, hr, rfl⟩ := exists_of_mem_sortedMembers hm
      exact integral_sorted (each raw (List.mem_filter.1 hr).1)

theorem Fields.integral_of_members : {β : Type} → (fields : Fields β) → fields.Lawful →
    {members : List (String × Json)} → {row : β} → fields.ofMembers members = some row →
    (∀ m ∈ members, m.2.integral = true) → ∀ m ∈ fields.encode row, m.2.integral = true
  | _, .nil, _, _, _, _, _, _, h => absurd h List.not_mem_nil
  | _, .cons field rest, lawful, members, row, h, each, m, hm => by
    obtain ⟨-, lawful, lawfulRest⟩ := lawful
    obtain ⟨a, own, h⟩ := Option.bind_eq_some_iff.1 h
    obtain ⟨others, tail, rfl⟩ := Option.map_eq_some_iff.1 h
    rcases List.mem_append.1 hm with hm | hm
    · match values : valuesOf field.name.wire members, own with
      | [], own => exact Field.integral_absent lawful own m hm
      | [json], own =>
        refine field.integral_encode lawful own (integral_valuesOf each field.name.wire json ?_) m hm
        rw [values]
        exact List.mem_cons_self
    · exact rest.integral_of_members lawfulRest tail (fun m hm => each m (List.mem_filter.1 hm).1) m hm

theorem Fields.integral_of_items : {β : Type} → (fields : Fields β) → fields.Lawful → {items : List Json} → {row : β} →
    fields.ofItems items = some row → (∀ json ∈ items, json.integral = true) →
      ∀ m ∈ fields.encode row, m.2.integral = true
  | _, .nil, _, _, _, _, _, _, h => absurd h List.not_mem_nil
  | _, .cons field rest, lawful, [], row, h, each, m, hm => by
    obtain ⟨-, lawful, lawfulRest⟩ := lawful
    obtain ⟨a, own, h⟩ := Option.bind_eq_some_iff.1 h
    obtain ⟨others, tail, rfl⟩ := Option.map_eq_some_iff.1 h
    rcases List.mem_append.1 hm with hm | hm
    · exact Field.integral_absent lawful (Field.absent_of_missingFromRow own) m hm
    · exact rest.integral_of_items lawfulRest tail each m hm
  | _, .cons field rest, lawful, json :: items, row, h, each, m, hm => by
    obtain ⟨-, lawful, lawfulRest⟩ := lawful
    obtain ⟨a, own, h⟩ := Option.bind_eq_some_iff.1 h
    obtain ⟨others, tail, rfl⟩ := Option.map_eq_some_iff.1 h
    obtain ⟨first, each⟩ := List.forall_mem_cons.1 each
    rcases List.mem_append.1 hm with hm | hm
    · exact field.integral_encode lawful own first m hm
    · exact rest.integral_of_items lawfulRest tail each m hm

theorem Field.integral_encode : {α : Type} → (field : Field α) → field.Lawful → {json : Json} → {a : α} →
    field.ofJson json = some a → json.integral = true → ∀ m ∈ field.encode a, m.2.integral = true
  | _, .required _ shape, lawful, _, _, h, integral, m, hm => by
    rw [List.mem_singleton.1 hm]
    exact shape.integral_encode lawful h integral
  | _, .optional _ shape, lawful, json, a, h, integral, m, hm => by
    by_cases null : json = .null
    · subst null
      cases h
      exact absurd hm List.not_mem_nil
    · rw [Field.ofJson, nullable_of_ne_null _ null] at h
      obtain ⟨b, value, rfl⟩ := Option.map_eq_some_iff.1 h
      rw [List.mem_singleton.1 hm]
      exact shape.integral_encode lawful value integral
  | _, .defaulted _ shape _, lawful, _, _, h, integral, m, hm => by
    rw [Field.eq_of_mem_encode_defaulted hm]
    exact shape.integral_encode lawful.1 h integral

end

end EntitlementClient.Schema
