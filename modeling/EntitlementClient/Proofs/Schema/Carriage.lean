/-
What an open record carries through: the JSON that is posted for a value that has been decoded, told of
the JSON that it has been decoded from.
-/
import EntitlementClient.Proofs.Schema.RoundTrip

namespace EntitlementClient

open EntitlementClient.Json

/-! ## Members of an object -/

namespace Json

/-- Whether a value is null. -/
def isNull : Json → Bool
  | .null => true
  | _ => false

theorem isNull_eq_false {json : Json} : json.isNull = false ↔ json ≠ .null := by
  cases json <;> simp [isNull]

/-- The members without those of the given names that are null. -/
def withoutNulls (names : List String) (members : List (String × Json)) : List (String × Json) :=
  members.filter fun m => !(names.contains m.1 && m.2.isNull)

theorem valuesOf_withoutNulls_of_mem {names : List String} {name : String} (h : name ∈ names)
    (members : List (String × Json)) :
    valuesOf name (withoutNulls names members) = (valuesOf name members).filter fun json => !json.isNull := by
  simp [withoutNulls, valuesOf_filter, h]

theorem valuesOf_withoutNulls_of_not_mem {names : List String} {name : String} (h : name ∉ names)
    (members : List (String × Json)) : valuesOf name (withoutNulls names members) = valuesOf name members := by
  simp [withoutNulls, valuesOf_filter, h]

end Json

namespace Schema

variable {α β : Type}

/-! ## Fields that are carried -/

/-- Whether the members of a field that has been decoded are those it has been decoded from, null left out
and the others changed by `carry`. -/
structure Field.Carries (field : Field α) (carry : Json → Json) : Prop where
  encode_eq : ∀ {values : List Json} {a : α}, soleValue field.absent.toOption field.ofJson values = some a →
    (field.encode a).map (·.2) = (values.filter fun json => !json.isNull).map carry
  ordered : ∀ {a : α}, ∀ m ∈ field.encode a, m.2.sorted = m.2

/-- Whether every field of a row carries its members, each by its name. -/
def Fields.Carries : {β : Type} → Fields β → (String → Json → Json) → Prop
  | _, .nil, _ => True
  | _, .cons field rest, carry => field.Carries (carry field.name.wire) ∧ rest.Carries carry

/-- An optional value is carried as its schema carries it, and left out if it is null. -/
theorem Field.Carries.optional (name : FieldName) {shape : Shape α} {carry : Json → Json}
    (h : ∀ {json a}, shape.ofJson json = some a → shape.encode a = carry json)
    (ordered : ∀ a, (shape.encode a).sorted = shape.encode a) : (Field.optional name shape).Carries carry := by
  refine ⟨fun {values a} sole => ?_, fun {a} m hm => ?_⟩
  · match values, sole with
    | [], sole => cases sole; rfl
    | [json], sole =>
      replace sole : nullable shape.ofJson json = some a := sole
      by_cases null : json = .null
      · subst null
        cases sole
        rfl
      · rw [nullable_of_ne_null _ null] at sole
        obtain ⟨b, value, rfl⟩ := Option.map_eq_some_iff.1 sole
        simp [Field.encode, isNull_eq_false.2 null, h value]
  · cases a with
    | none => exact absurd hm List.not_mem_nil
    | some a => rw [List.mem_singleton.1 hm]; exact ordered a

theorem Shape.encode_of_ofJson_text {json : Json} {s : String} (h : Shape.text.ofJson json = some s) :
    Shape.text.encode s = json := by
  cases json with
  | text => cases h; rfl
  | null | bool | number | array | object => cases h

theorem Shape.encode_of_ofJson_signed {json : Json} {n : Int64} (h : Shape.signed.ofJson json = some n) :
    Shape.signed.encode n = json := by
  cases json with
  | number value =>
    cases value with
    | integer value low high =>
      simp only [Shape.ofJson, pick?, scalar?, Option.bind_some, pickSigned] at h
      split at h
      · next small =>
        cases h
        have same : (Int64.ofInt value).toInt = value := Int64.toInt_ofInt_of_le low small
        simp only [Shape.encode, JsonNumber.ofInt64, same]
      · cases h
    | double => cases h
  | null | bool | text | array | object => cases h

theorem Fields.ordered_of_mem_encode : {β : Type} → {fields : Fields β} → {carry : String → Json → Json} →
    fields.Carries carry → {row : β} → ∀ m ∈ fields.encode row, m.2.sorted = m.2
  | _, .nil, _, _, _, _, h => absurd h List.not_mem_nil
  | _, .cons field rest, _, carries, row, m, h => by
    rcases List.mem_append.1 h with h | h
    · exact carries.1.ordered m h
    · exact ordered_of_mem_encode carries.2 m h

/-- The values of a field's name are carried. -/
theorem Fields.valuesOf_encode_eq : {β : Type} → {fields : Fields β} → fields.Lawful → {carry : String → Json → Json} →
    fields.Carries carry → {members : List (String × Json)} → {row : β} → fields.ofMembers members = some row →
    {name : String} → name ∈ fields.wireNames →
    valuesOf name (fields.encode row) = ((valuesOf name members).filter fun json => !json.isNull).map (carry name)
  | _, .nil, _, _, _, _, _, _, _, mem => absurd mem List.not_mem_nil
  | _, .cons field rest, lawful, carry, carries, members, row, h, name, mem => by
    obtain ⟨fresh, -, lawful⟩ := lawful
    obtain ⟨a, own, h⟩ := Option.bind_eq_some_iff.1 h
    obtain ⟨others, tail, rfl⟩ := Option.map_eq_some_iff.1 h
    rcases List.mem_cons.1 mem with rfl | mem
    · rw [valuesOf_encode_first fresh, carries.1.encode_eq own]
    · have ne : field.name.wire ≠ name := by
        rintro rfl
        exact fresh mem
      rw [valuesOf_encode_rest ne, valuesOf_encode_eq lawful carries.2 tail mem, valuesOf_filter]
      simp [Ne.symm ne]

theorem map_sorted_valuesOf {members : List (String × Json)} (ordered : ∀ m ∈ members, m.2.sorted = m.2)
    (name : String) : (valuesOf name members).map sorted = valuesOf name members :=
  (List.map_congr_left fun _ h => ordered _ (mem_valuesOf.1 h)).trans (List.map_id _)

/-- The members that are put in order are known by the values of their names. -/
theorem entries_sortedMembers_eq {members ordered : List (String × Json)} (increasing : IncreasingNames ordered)
    (h : ∀ name, valuesOf name ordered = (valuesOf name members).map sorted) :
    (sortedMembers members .empty).entries = ordered := by
  have eq : sortedMembers members .empty = ⟨ordered, increasing⟩ := by
    refine NameMap.ext_get? fun name => ?_
    rw [get?_sortedMembers, ← List.getLast?_map, ← h, NameMap.get?_eq_getLast?]
  rw [eq]

variable {model extra : String} {fields : Fields β} {form : Form α (β × NameMap Json)} {carry : String → Json → Json}

/-- The unmodelled members of an object in order are kept as they are. -/
theorem Fields.valuesOf_unknown {members : List (String × Json)} (increasing : IncreasingNames members)
    (ordered : ∀ m ∈ members, m.2.sorted = m.2) {name : String} (h : name ∉ fields.wireNames) :
    valuesOf name (sortedMembers (fields.unknown members) .empty).entries = valuesOf name members := by
  have kept : valuesOf name (fields.unknown members) = valuesOf name members := by
    simp [Fields.unknown, valuesOf_filter, h]
  rw [NameMap.valuesOf_entries, get?_sortedMembers, kept, increasing.valuesOf_eq]
  cases found : members.find? fun m => m.1 == name with
  | none => rfl
  | some m => exact congrArg (fun json => [json]) (ordered m (List.mem_of_find?_eq_some found))

/-- What is posted for a value of an open record are the members that it has been decoded from: those that
are no fields as they are, those of the fields as these carry them, and no field that is null. -/
theorem Shape.document_openRecord (lawful : fields.Lawful) (carries : fields.Carries carry)
    (frame : ∀ name ∉ fields.wireNames, carry name = id) {members : List (String × Json)}
    (increasing : IncreasingNames members) (ordered : ∀ m ∈ members, m.2.sorted = m.2) {a : α}
    (h : (Shape.openRecord model fields extra form).ofJson (.object members) = some a) :
    (Shape.openRecord model fields extra form).document a =
      .object ((withoutNulls fields.wireNames members).map fun m => (m.1, carry m.1 m.2)) := by
  rw [Shape.ofJson] at h
  obtain ⟨row, found, rfl⟩ := Option.map_eq_some_iff.1 h
  rw [Shape.document, Shape.encode, form.fields_ofFields, Json.sorted]
  refine congrArg Json.object (entries_sortedMembers_eq ((increasing.filter _).mapValues carry) fun name => ?_)
  rw [valuesOf_mapValues, valuesOf_append]
  by_cases modelled : name ∈ fields.wireNames
  · have unknown : ∀ e ∈ (sortedMembers (fields.unknown members) .empty).entries, e.1 ≠ name := by
      intro e he eq
      obtain ⟨m, hm, rfl⟩ := exists_of_mem_sortedMembers he
      exact of_decide_eq_true (List.mem_filter.1 hm).2 (eq ▸ modelled)
    rw [valuesOf_eq_nil unknown, List.append_nil, valuesOf_withoutNulls_of_mem modelled,
      ← Fields.valuesOf_encode_eq lawful carries found modelled,
        map_sorted_valuesOf (Fields.ordered_of_mem_encode carries)]
  · have row_names : ∀ m ∈ fields.encode row, m.1 ≠ name := by
      rintro m hm rfl
      exact modelled (Fields.name_of_mem_encode hm)
    rw [valuesOf_eq_nil row_names, List.nil_append, valuesOf_withoutNulls_of_not_mem modelled, frame name modelled,
      List.map_id, Fields.valuesOf_unknown increasing ordered modelled, map_sorted_valuesOf ordered]

/-- The names of the fields of a record. -/
def Shape.wireNames : {α : Type} → Shape α → List String
  | _, .record _ fields _ => fields.wireNames
  | _, .openRecord _ fields _ _ => fields.wireNames
  | _, _ => []

/-- The same of a text that is decoded: what is posted is told of its JSON value. -/
theorem Shape.document_of_decode (lawful : fields.Lawful) (carries : fields.Carries carry)
    (frame : ∀ name ∉ fields.wireNames, carry name = id) {s : List Char} {json : Json} {a : α}
    (read : Shape.json.decode s = .ok json) (h : (Shape.openRecord model fields extra form).decode s = .ok a) :
    ∃ members, json = .object members ∧ (Shape.openRecord model fields extra form).document a =
      .object ((withoutNulls (Shape.openRecord model fields extra form).wireNames members).map
        fun m => (m.1, carry m.1 m.2)) := by
  obtain ⟨found, inOrder⟩ := Shape.ofJson_of_decode read h
  rw [Shape.ofJson_openRecord] at found
  obtain ⟨_, _, found⟩ | ⟨members, rfl, found⟩ := exists_of_ofBrackets_eq_some found
  · cases found
  have entries : (sortedMembers members .empty).entries = members := Json.object.inj inOrder
  have ordered : ∀ m ∈ members, m.2.sorted = m.2 := by
    rw [← entries]
    intro m hm
    obtain ⟨raw, -, rfl⟩ := exists_of_mem_sortedMembers hm
    exact raw.2.sorted_sorted
  have increasing : IncreasingNames members := entries ▸ (sortedMembers members .empty).increasing
  exact ⟨members, rfl, document_openRecord lawful carries frame increasing ordered found⟩

end Schema

end EntitlementClient
