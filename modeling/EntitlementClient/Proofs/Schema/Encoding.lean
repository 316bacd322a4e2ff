/-
The JSON value of a value stands for that value again. Two conditions of the schema carry this (the
fields of a record have different names, and what stands for an absent field is proper itself) and one
of the value: it is one that can be told from its JSON.
-/
import EntitlementClient.Proofs.Calendar.Date
import EntitlementClient.Proofs.Schema.Meaning
import EntitlementClient.Schema.Encoder

namespace EntitlementClient.Schema

open EntitlementClient.Json

/-! ## Proper values and lawful schemas -/

mutual

/-- Whether a value can be told from its JSON: free JSON in it has its members in order, no optional
value is there and null, and no member beyond the fields has the name of a field. -/
def Shape.Proper : {α : Type} → Shape α → α → Prop
  | _, .json, json => json.sorted = json
  | _, .list item, items => ∀ a ∈ items, item.Proper a
  | _, .record _ fields form, a => fields.Proper (form.fields a)
  | _, .openRecord _ fields _ form, a =>
    fields.Proper (form.fields a).1 ∧
      ∀ e ∈ (form.fields a).2.entries, e.1 ∉ fields.wireNames ∧ e.2.sorted = e.2
  | _, .text, _ | _, .flag, _ | _, .unsigned, _ | _, .signed, _ | _, .date, _ | _, .texts, _ => True

/-- Whether all fields of a row are proper. -/
def Fields.Proper : {β : Type} → Fields β → β → Prop
  | _, .nil, _ => True
  | _, .cons field rest, row => field.Proper row.1 ∧ rest.Proper row.2

/-- Whether the value of a field is proper. -/
def Field.Proper : {α : Type} → Field α → α → Prop
  | _, .required _ shape, a => shape.Proper a
  | _, .optional _ _, none => True
  | _, .optional _ shape, some a => shape.encode a ≠ .null ∧ shape.Proper a
  | _, .defaulted _ shape _, a => shape.Proper a

end

mutual

/-- Whether the fields of every record of a schema have different names, and defaults that are proper and
without numbers that are no integers. -/
def Shape.Lawful : {α : Type} → Shape α → Prop
  | _, .list item => item.Lawful
  | _, .record _ fields _ => fields.Lawful
  | _, .openRecord _ fields _ _ => fields.Lawful
  | _, .text | _, .flag | _, .unsigned | _, .signed | _, .date | _, .json | _, .texts => True

/-- Whether fields have different names and lawful schemas. -/
def Fields.Lawful : {β : Type} → Fields β → Prop
  | _, .nil => True
  | _, .cons field rest => field.name.wire ∉ rest.wireNames ∧ field.Lawful ∧ rest.Lawful

/-- Whether the schema of a field is lawful, and its default proper and without numbers that are no integers. -/
def Field.Lawful : {α : Type} → Field α → Prop
  | _, .required _ shape => shape.Lawful
  | _, .optional _ shape => shape.Lawful
  | _, .defaulted _ shape default =>
    shape.Lawful ∧ shape.Proper default.value ∧ (shape.encode default.value).integral = true

end

/-! ## Scalars and maps of texts -/

theorem pickUnsigned_ofUInt64 (n : UInt64) : pickUnsigned (.number (.ofUInt64 n)) = .ok n := by
  have nonneg : 0 ≤ (n.toNat : Int) := Int.natCast_nonneg _
  simp only [JsonNumber.ofUInt64, pickUnsigned, if_pos nonneg, Int.toNat_natCast, UInt64.ofNat_toNat]

theorem pickSigned_ofInt64 (n : Int64) : pickSigned (.number (.ofInt64 n)) = .ok n := by
  have small : n.toInt < 0x8000000000000000 := n.toInt_lt
  simp only [JsonNumber.ofInt64, pickSigned, if_pos small, Int64.ofInt_toInt]

theorem pickDate_text (d : Date) : pickDate (.text (String.ofList d.text)) = .ok d := by
  simp only [pickDate, String.toList_ofList, Date.parse_text]
  rfl

/-- Texts are put into a map one by one. -/
theorem foldlM_insertText (texts : List (String × String)) (map : NameMap String) :
    (texts.map fun e => (e.1, Json.text e.2)).foldlM insertText map =
      some (texts.foldl (fun map e => map.insert e.1 e.2) map) := by
  induction texts generalizing map with
  | nil => rfl
  | cons e rest ih => exact ih _

/-! ## Members -/

theorem Field.eq_of_mem_encode_defaulted {α : Type} {name : FieldName} {shape : Shape α} {default : Default α} {a : α}
    {m : String × Json} (h : m ∈ (Field.defaulted name shape default).encode a) : m = (name.wire, shape.encode a) := by
  rw [Field.encode] at h
  split at h
  · exact absurd h List.not_mem_nil
  · exact List.mem_singleton.1 h

theorem Field.name_of_mem_encode {α : Type} {field : Field α} {a : α} {m : String × Json} (h : m ∈ field.encode a) :
    m.1 = field.name.wire := by
  cases field with
  | required name shape => rw [List.mem_singleton.1 h]; rfl
  | optional name shape =>
    cases a with
    | none => exact absurd h List.not_mem_nil
    | some a => rw [List.mem_singleton.1 h]; rfl
  | defaulted name shape default => rw [eq_of_mem_encode_defaulted h]; rfl

theorem Fields.name_of_mem_encode : {β : Type} → {fields : Fields β} → {row : β} → {m : String × Json} →
    m ∈ fields.encode row → m.1 ∈ fields.wireNames
  | _, .nil, _, _, h => absurd h List.not_mem_nil
  | _, .cons field rest, row, m, h => by
    rcases List.mem_append.1 h with h | h
    · exact List.mem_cons.2 (.inl (Field.name_of_mem_encode h))
    · exact List.mem_cons_of_mem _ (name_of_mem_encode h)

/-- The first field finds its own members, and leaves the others, if the fields have different names. -/
theorem Fields.valuesOf_encode {α β : Type} {field : Field α} {rest : Fields β}
    (fresh : field.name.wire ∉ rest.wireNames) (row : α × β)
    {extra : List (String × Json)} (h : ∀ e ∈ extra, e.1 ≠ field.name.wire) :
    valuesOf field.name.wire (field.encode row.1 ++ (rest.encode row.2 ++ extra)) = (field.encode row.1).map (·.2) ∧
      (field.encode row.1 ++ (rest.encode row.2 ++ extra)).filter (fun m => m.1 ≠ field.name.wire) =
        rest.encode row.2 ++ extra := by
  have own : ∀ m ∈ field.encode row.1, m.1 = field.name.wire := fun m hm => Field.name_of_mem_encode hm
  have others : ∀ m ∈ rest.encode row.2 ++ extra, m.1 ≠ field.name.wire := by
    intro m hm
    rcases List.mem_append.1 hm with hm | hm
    · rintro eq
      exact fresh (eq ▸ name_of_mem_encode hm)
    · exact h m hm
  constructor
  · rw [valuesOf_append, valuesOf_eq_nil others, List.append_nil, valuesOf]
    rw [List.filter_eq_self.2 fun m hm => by simp [own m hm]]
  · rw [List.filter_append, List.filter_eq_nil_iff.2 fun m hm => by simp [own m hm],
      List.filter_eq_self.2 fun m hm => by simp [others m hm], List.nil_append]

/-- Under the name of the first field stand its own members. -/
theorem Fields.valuesOf_encode_first {α β : Type} {field : Field α} {rest : Fields β}
    (fresh : field.name.wire ∉ rest.wireNames) (row : α × β) :
    valuesOf field.name.wire ((Fields.cons field rest).encode row) = (field.encode row.1).map (·.2) := by
  have nothing : ∀ e ∈ ([] : List (String × Json)), e.1 ≠ field.name.wire := fun e he => absurd he List.not_mem_nil
  have alone := (valuesOf_encode fresh row nothing).1
  rwa [List.append_nil] at alone

/-- Under any other name stand the members of the other fields. -/
theorem Fields.valuesOf_encode_rest {α β : Type} {field : Field α} {rest : Fields β} {name : String}
    (ne : field.name.wire ≠ name) (row : α × β) :
    valuesOf name ((Fields.cons field rest).encode row) = valuesOf name (rest.encode row.2) := by
  have own : ∀ m ∈ field.encode row.1, m.1 ≠ name := fun m hm => by rwa [Field.name_of_mem_encode hm]
  rw [Fields.encode, valuesOf_append, valuesOf_eq_nil own, List.nil_append]

mutual

/-- The JSON value of a proper value stands for it. -/
theorem Shape.ofJson_encode : {α : Type} → (shape : Shape α) → shape.Lawful → (a : α) → shape.Proper a →
    shape.ofJson (shape.encode a) = some a
  | _, .text, _, _, _ => rfl
  | _, .flag, _, _, _ => rfl
  | _, .unsigned, _, n, _ => by
    simp only [Shape.encode, Shape.ofJson, pick?, scalar?, Option.bind_some, pickUnsigned_ofUInt64]
    rfl
  | _, .signed, _, n, _ => by
    simp only [Shape.encode, Shape.ofJson, pick?, scalar?, Option.bind_some, pickSigned_ofInt64]
    rfl
  | _, .date, _, d, _ => by
    simp only [Shape.encode, Shape.ofJson, pick?, scalar?, Option.bind_some, pickDate_text]
    rfl
  | _, .json, _, json, proper => by
    rw [Shape.encode, Shape.ofJson, proper]
  | _, .texts, _, map, _ => by
    rw [Shape.encode, Shape.ofJson, foldlM_insertText]
    exact congrArg some map.ofList_entries
  | _, .list item, lawful, items, proper => by
    rw [Shape.encode, Shape.ofJson]
    rw [mapM_eq_some_iff, List.forall₂_map_left_iff, List.forall₂_same]
    exact fun a ha => item.ofJson_encode lawful a (proper a ha)
  | _, .record _ fields form, lawful, a, proper => by
    have row := fields.ofMembers_encode lawful (form.fields a) proper [] (by simp)
    rw [List.append_nil] at row
    rw [Shape.encode, Shape.ofJson, row, Option.map_some, form.ofFields_fields]
  | _, .openRecord _ fields _ form, lawful, a, proper => by
    obtain ⟨proper, extra⟩ := proper
    have unmodelled : fields.unknown (fields.encode (form.fields a).1 ++ (form.fields a).2.entries) =
        (form.fields a).2.entries := by
      rw [Fields.unknown, List.filter_append,
        List.filter_eq_nil_iff.2 fun m hm => by simpa using Fields.name_of_mem_encode hm,
        List.filter_eq_self.2 fun m hm => by simpa using (extra m hm).1, List.nil_append]
    rw [Shape.encode, Shape.ofJson,
      fields.ofMembers_encode lawful (form.fields a).1 proper _ fun e he => (extra e he).1,
      unmodelled, sortedMembers_entries _ fun e he => (extra e he).2, Option.map_some]
    exact congrArg some (form.ofFields_fields a)

theorem Fields.ofMembers_encode : {β : Type} → (fields : Fields β) → fields.Lawful → (row : β) → fields.Proper row →
    (extra : List (String × Json)) → (∀ e ∈ extra, e.1 ∉ fields.wireNames) →
    fields.ofMembers (fields.encode row ++ extra) = some row
  | _, .nil, _, _, _, _, _ => rfl
  | _, .cons field rest, lawful, row, proper, extra, h => by
    obtain ⟨fresh, lawful, lawfulRest⟩ := lawful
    obtain ⟨proper, properRest⟩ := proper
    have others : ∀ e ∈ extra, e.1 ≠ field.name.wire ∧ e.1 ∉ rest.wireNames := fun e he =>
      not_or.1 (mt List.mem_cons.2 (h e he))
    obtain ⟨own, left⟩ := Fields.valuesOf_encode fresh row fun e he => (others e he).1
    rw [Fields.encode, List.append_assoc, Fields.ofMembers, own, left, field.soleValue_encode lawful row.1 proper,
      rest.ofMembers_encode lawfulRest row.2 properRest extra fun e he => (others e he).2]
    rfl

theorem Field.soleValue_encode : {α : Type} → (field : Field α) → field.Lawful → (a : α) → field.Proper a →
    soleValue field.absent.toOption field.ofJson ((field.encode a).map (·.2)) = some a
  | _, .required _ shape, lawful, a, proper => shape.ofJson_encode lawful a proper
  | _, .optional _ _, _, none, _ => rfl
  | _, .optional _ shape, lawful, some a, proper => by
    obtain ⟨notNull, proper⟩ := proper
    have value : nullable shape.ofJson (shape.encode a) = some (some a) := by
      rw [nullable_of_ne_null _ notNull, shape.ofJson_encode lawful a proper, Option.map_some]
    exact value
  | _, .defaulted _ shape default, lawful, a, proper => by
    obtain ⟨lawful, -⟩ := lawful
    rw [Field.encode]
    split
    · next omitted => exact congrArg some (default.eq_of_omits a omitted).symm
    · exact shape.ofJson_encode lawful a proper

end

end EntitlementClient.Schema
