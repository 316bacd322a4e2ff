/-
What decoding yields: a value that can be told from its JSON, and whose JSON nests no deeper than the
text may or than the schema itself does.
-/
import EntitlementClient.Proofs.Schema.Encoding
import EntitlementClient.Proofs.Schema.Reading

namespace EntitlementClient

open EntitlementClient.Json

namespace Json

/-! ## What readers yield -/

variable {α β σ : Type} {P : α → Prop}

/-- Whether all that a reader reads has a property. -/
def Reader.Yields (reader : Reader α) (P : α → Prop) : Prop :=
  ∀ ⦃s rest : List Char⦄ ⦃a : α⦄, reader.run s = .ok (a, rest) → P a

theorem Reader.Yields.map {reader : Reader β} {f : β → α} (h : reader.Yields fun b => P (f b)) :
    (reader.map f).Yields P := by
  intro s rest a read
  simp only [Reader.map, Reader.runMap] at read
  split at read
  · cases read
  · next run => cases read; exact h run

theorem yields_readItems {item : Reader α} (h : item.Yields P) {first : Bool} {s rest : List Char} {items : List α}
    (read : readItems item first s = .ok (items, rest)) : ∀ a ∈ items, P a := by
  fun_induction readItems item first s generalizing items rest with
  | case1 => cases read
  | case2 => cases read; exact fun a ha => absurd ha List.not_mem_nil
  | case3 => cases read
  | case4 => cases read
  | case5 first s at_ next a after run items' rest' tail ih =>
    cases read
    exact List.forall_mem_cons.2 ⟨h run, ih tail⟩

/-- What every member keeps true of the state holds when the object has been read. -/
theorem yields_readMembers {use : σ → String → MemberUse σ} {I : σ → Prop}
    (step : ∀ state name reader, I state → use state name = .take reader → reader.Yields I)
    {state final : σ} {first : Bool} {s rest : List Char} (start : I state)
    (read : readMembers use state first s = .ok (final, rest)) : I final := by
  fun_induction readMembers use state first s with
  | case1 => cases read
  | case2 => cases read; exact start
  | case3 => cases read
  | case4 => cases read
  | case5 => cases read
  | case6 => cases read
  | case7 _ _ _ _ _ _ _ _ _ _ _ _ _ ih => exact ih start read
  | case8 => cases read
  | case9 => cases read
  | case10 state _ _ _ _ chars _ _ reader used _ _ next _ run ih =>
    exact ih (step state (String.ofList chars) reader start used run) read

theorem MemberUse.exists_of_map_eq_take {τ : Type} {use : MemberUse σ} {f : σ → τ} {reader : Reader τ}
    (h : use.map f = .take reader) : ∃ inner, use = .take inner ∧ reader = inner.map f := by
  cases use with
  | take inner =>
    cases h
    exact ⟨inner, rfl, rfl⟩
  | pass | repeated => cases h

/-- Free JSON is read with its members in order, and no deeper than allowed. -/
theorem yields_valueReader (d : Nat) : (valueReader d).Yields fun json => json.sorted = json ∧ json.depth ≤ d := by
  intro s rest json read
  obtain ⟨raw, -, small, rfl⟩ := exists_reads_of_value read
  exact ⟨raw.sorted_sorted, Nat.le_trans raw.depth_sorted_le small⟩

end Json

namespace Schema

variable {α β σ : Type} {P : α → Prop}

theorem yields_bracketReader {expected : Expected} {d : Nat} {inside : Bracket → Option (Reader α)}
    (h : 0 < d → ∀ bracket reader, inside bracket = some reader → reader.Yields P) :
    (bracketReader expected d inside).Yields P := by
  intro s rest a read
  simp only [bracketReader, readBracket] at read
  split at read
  · cases read
  · next reader found =>
    obtain ⟨bracket, -, found⟩ := Option.bind_eq_some_iff.1 found
    split at read
    · cases read
    · next pos => exact h (Nat.pos_of_ne_zero pos) bracket reader found read

theorem yields_membersReader {use : σ → String → MemberUse σ} {start : σ} {finish : σ → Except Cause α} {I : σ → Prop}
    (step : ∀ state name reader, I state → use state name = .take reader → reader.Yields I) (init : I start)
    (done : ∀ state a, I state → finish state = .ok a → P a) : (membersReader use start finish).Yields P := by
  intro s rest a read
  simp only [membersReader, readObject] at read
  split at read
  · cases read
  · next state after members =>
    split at read
    · cases read
    · next result finished =>
      cases read
      exact done state _ (yields_readMembers step init members) finished

theorem yields_rowCons {item : Reader α} {absent : Except Cause α} {rest : Bool → Reader β} {Q : β → Prop}
    (head : item.Yields P) (missing : ∀ a, absent = .ok a → P a) (tail : ∀ first, (rest first).Yields Q)
    (first : Bool) : (rowCons item absent rest first).Yields fun row => P row.1 ∧ Q row.2 := by
  intro s after row read
  simp only [rowCons, readRow] at read
  split at read
  · cases read
  · split at read
    · cases read
    · split at read
      · cases read
      · next run => cases read; exact ⟨missing _ rfl, tail first run⟩
  · split at read
    · cases read
    · next run =>
      split at read
      · cases read
      · next run' => cases read; exact ⟨head run, tail false run'⟩

/-! ## Brackets of a schema -/

mutual

/-- How many brackets of a value are open at once where its schema alone opens them. -/
def Shape.height : {α : Type} → Shape α → Nat
  | _, .list item => item.height + 1
  | _, .record _ fields _ => fields.height + 1
  | _, .openRecord _ fields _ _ => fields.height + 1
  | _, .texts => 1
  | _, .text | _, .flag | _, .unsigned | _, .signed | _, .date | _, .json => 0

/-- How many brackets are open at once in the members of a row. -/
def Fields.height : {β : Type} → Fields β → Nat
  | _, .nil => 0
  | _, .cons field rest => max field.height rest.height

/-- How many brackets are open at once in the member of a field, its default included. -/
def Field.height : {α : Type} → Field α → Nat
  | _, .required _ shape => shape.height
  | _, .optional _ shape => shape.height
  | _, .defaulted _ shape default => max shape.height (shape.encode default.value).depth

end

/-- Whether a value is one that decoding yields where `d` brackets may be opened. -/
structure Shape.Decoded (shape : Shape α) (d : Nat) (a : α) : Prop where
  proper : shape.Proper a
  depth_le : (shape.encode a).depth ≤ max d shape.height

/-- Whether a row of fields is one that decoding yields where `d` brackets may be opened. -/
structure Fields.Decoded (fields : Fields β) (d : Nat) (row : β) : Prop where
  proper : fields.Proper row
  depth_le : ∀ m ∈ fields.encode row, m.2.depth ≤ max d fields.height

/-- Whether the value of a field is one that decoding yields where `d` brackets may be opened. -/
structure Field.Decoded (field : Field α) (d : Nat) (a : α) : Prop where
  proper : field.Proper a
  depth_le : ∀ m ∈ field.encode a, m.2.depth ≤ max d field.height

theorem Fields.decoded_nil (d : Nat) : Fields.nil.Decoded d () :=
  ⟨trivial, fun _ h => absurd h List.not_mem_nil⟩

theorem Fields.decoded_cons {field : Field α} {rest : Fields β} {d : Nat} {a : α} {b : β} (head : field.Decoded d a)
    (tail : rest.Decoded d b) : (Fields.cons field rest).Decoded d (a, b) := by
  refine ⟨⟨head.proper, tail.proper⟩, fun m hm => ?_⟩
  simp only [Fields.height]
  rcases List.mem_append.1 hm with hm | hm
  · have := head.depth_le m hm
    omega
  · have := tail.depth_le m hm
    omega

/-! ## Fields of an object -/

/-- Whether all slots that are filled hold what decoding yields. -/
def Fields.Filled : {β : Type} → (fields : Fields β) → Nat → fields.Slots → Prop
  | _, .nil, _, _ => True
  | _, .cons field rest, d, slots => (∀ a, slots.1 = some a → field.Decoded d a) ∧ rest.Filled d slots.2

theorem Fields.filled_start : {β : Type} → (fields : Fields β) → (d : Nat) → fields.Filled d fields.start
  | _, .nil, _ => trivial
  | _, .cons _ rest, d => ⟨fun _ h => (nomatch h), rest.filled_start d⟩

theorem Field.decoded_absent {field : Field α} (lawful : field.Lawful) (d : Nat) {a : α} (h : field.absent = .ok a) :
    field.Decoded d a := by
  cases field with
  | required name shape => cases h
  | optional name shape =>
    cases h
    exact ⟨trivial, fun _ h => absurd h List.not_mem_nil⟩
  | defaulted name shape default =>
    cases h
    refine ⟨lawful.2.1, fun m hm => ?_⟩
    rw [Field.eq_of_mem_encode_defaulted hm, Field.height]
    simp only
    omega

theorem Field.decoded_absentFromRow {field : Field α} (lawful : field.Lawful) (d : Nat) {cause : Cause} {a : α}
    (h : field.absentFromRow cause = .ok a) : field.Decoded d a := by
  cases field with
  | required name shape => cases h
  | optional name shape => cases h
  | defaulted name shape default => exact Field.decoded_absent lawful d h

theorem Fields.decoded_finish : {β : Type} → (fields : Fields β) → fields.Lawful → {d : Nat} → {slots : fields.Slots} →
    {row : β} → fields.Filled d slots → fields.finish slots = .ok row → fields.Decoded d row
  | _, .nil, _, d, _, (), _, _ => decoded_nil d
  | _, .cons field rest, lawful, d, slots, row, filled, h => by
    obtain ⟨-, lawful, lawfulRest⟩ := lawful
    obtain ⟨head, tail⟩ := filled
    rw [Fields.finish] at h
    split at h
    · next a slot =>
      obtain ⟨others, finished, rfl⟩ := exists_of_map_eq_ok h
      exact decoded_cons (head a slot) (decoded_finish rest lawfulRest tail finished)
    · split at h
      · cases h
      · next a absent =>
        obtain ⟨others, finished, rfl⟩ := exists_of_map_eq_ok h
        exact decoded_cons (Field.decoded_absent lawful d absent) (decoded_finish rest lawfulRest tail finished)

/-! ## Models -/

theorem Shape.decoded_texts (d : Nat) (map : NameMap String) : Shape.texts.Decoded d map := by
  refine ⟨trivial, ?_⟩
  have flat : membersDepth (map.entries.map fun e => (e.1, Json.text e.2)) ≤ 0 := by
    refine membersDepth_le.2 fun m hm => ?_
    obtain ⟨e, -, rfl⟩ := List.mem_map.1 hm
    exact Nat.le_refl 0
  rw [Shape.encode, depth, Shape.height]
  omega

theorem Shape.decoded_list {item : Shape α} {d : Nat} (pos : 0 < d) {items : List α}
    (each : ∀ a ∈ items, item.Decoded (d - 1) a) : (Shape.list item).Decoded d items := by
  refine ⟨fun a ha => (each a ha).proper, ?_⟩
  have small : itemsDepth (items.map item.encode) ≤ max (d - 1) item.height := by
    refine itemsDepth_le.2 fun json hj => ?_
    obtain ⟨a, ha, rfl⟩ := List.mem_map.1 hj
    exact (each a ha).depth_le
  rw [Shape.encode, depth, Shape.height]
  omega

theorem Shape.decoded_record {model : String} {fields : Fields β} {form : Form α β} {d : Nat} (pos : 0 < d) {row : β}
    (h : fields.Decoded (d - 1) row) : (Shape.record model fields form).Decoded d (form.ofFields row) := by
  refine ⟨?_, ?_⟩
  · rw [Shape.Proper, form.fields_ofFields]
    exact h.proper
  · have small := membersDepth_le.2 h.depth_le
    rw [Shape.encode, form.fields_ofFields, depth, Shape.height]
    omega

/-- Whether the members of an open record that are no fields are such as decoding yields. -/
def Fields.Unmodelled (fields : Fields β) (d : Nat) (extra : NameMap Json) : Prop :=
  ∀ e ∈ extra.entries, e.1 ∉ fields.wireNames ∧ e.2.sorted = e.2 ∧ e.2.depth ≤ d

theorem Shape.decoded_openRecord {model extra : String} {fields : Fields β} {form : Form α (β × NameMap Json)} {d : Nat}
    (pos : 0 < d) {row : β} {others : NameMap Json} (h : fields.Decoded (d - 1) row)
    (unmodelled : fields.Unmodelled (d - 1) others) :
    (Shape.openRecord model fields extra form).Decoded d (form.ofFields (row, others)) := by
  refine ⟨?_, ?_⟩
  · rw [Shape.Proper, form.fields_ofFields]
    exact ⟨h.proper, fun e he => ⟨(unmodelled e he).1, (unmodelled e he).2.1⟩⟩
  · have small : membersDepth (fields.encode row ++ others.entries) ≤ max (d - 1) fields.height := by
      refine membersDepth_le.2 fun m hm => ?_
      rcases List.mem_append.1 hm with hm | hm
      · exact h.depth_le m hm
      · exact Nat.le_trans (unmodelled m hm).2.2 (Nat.le_max_left _ _)
    rw [Shape.encode, form.fields_ofFields, depth, Shape.height]
    simp only
    omega

theorem Fields.Unmodelled.insert {fields : Fields β} {d : Nat} {extra : NameMap Json} (h : fields.Unmodelled d extra)
    {name : String} {json : Json} (fresh : name ∉ fields.wireNames) (ordered : json.sorted = json)
    (small : json.depth ≤ d) : fields.Unmodelled d (extra.insert name json) := by
  intro e he
  rcases eq_or_mem_of_mem_insertByName he with rfl | he
  · exact ⟨fresh, ordered, small⟩
  · exact h e he

/-- Whether what has been read of an open record so far is such as decoding yields. -/
def Fields.OpenFilled (fields : Fields β) (d : Nat) (state : fields.Slots × NameMap Json) : Prop :=
  fields.Filled d state.1 ∧ fields.Unmodelled d state.2

theorem Fields.openFilled_start (fields : Fields β) (d : Nat) : fields.OpenFilled d (fields.start, .empty) :=
  ⟨fields.filled_start d, fun _ h => absurd h List.not_mem_nil⟩

/-- A member of an open record yields the value of a field or a member that is no field. -/
theorem Fields.yields_openUse {fields : Fields β} {d : Nat} {state : fields.Slots × NameMap Json} {name : String}
    {reader : Reader (fields.Slots × NameMap Json)}
    (own : ∀ {slots name reader}, fields.Filled d slots → fields.use d slots name = .take reader →
      reader.Yields (fields.Filled d))
    (inv : fields.OpenFilled d state) (used : fields.openUse d state name = .take reader) :
    reader.Yields (fields.OpenFilled d) := by
  obtain ⟨filled, unmodelled⟩ := inv
  unfold openUse at used
  split at used
  · next pass =>
    cases used
    have fresh := fields.use_eq_pass d state.1 name pass
    refine Reader.Yields.map fun _ _ _ read => ⟨filled, ?_⟩
    obtain ⟨ordered, small⟩ := yields_valueReader d read
    exact unmodelled.insert fresh ordered small
  · obtain ⟨inner, taken, rfl⟩ := MemberUse.exists_of_map_eq_take used
    exact Reader.Yields.map fun _ _ _ read => ⟨own filled taken read, unmodelled⟩

/-- Only free JSON can be null, and its text begins then as that of null. -/
theorem Shape.encode_ne_null (shape : Shape α) {d : Nat} {s rest : List Char} {a : α}
    (read : (shape.reader d).run s = .ok (a, rest)) (h : ∀ after, skipSpace s ≠ 'n' :: after) :
    shape.encode a ≠ .null := by
  cases shape with
  | json =>
    obtain ⟨json, reads, -, rfl⟩ := exists_reads_of_value read
    have ne : json ≠ .null := by
      cases eq : skipSpace s with
      | nil => exact absurd eq reads.skipSpace_ne_nil
      | cons c after => exact reads.ne_null eq (fun n => h after (n ▸ eq))
    cases json with
    | null => exact absurd rfl ne
    | bool | number | text | array | object => exact Json.noConfusion
  | text | flag | unsigned | signed | date | texts | list | record | openRecord => exact Json.noConfusion

theorem yields_nullable (shape : Shape α) (name : FieldName) {d : Nat}
    (h : (shape.reader d).Yields (shape.Decoded d)) :
    (nullableReader (shape.reader d)).Yields ((Field.optional name shape).Decoded d) := by
  intro s rest a read
  have value (notNull : ∀ after, skipSpace s ≠ 'n' :: after)
      (read : ((shape.reader d).map some).run s = .ok (a, rest)) : (Field.optional name shape).Decoded d a := by
    simp only [Reader.map, Reader.runMap] at read
    split at read
    · cases read
    · next a run =>
      cases read
      refine ⟨⟨shape.encode_ne_null run notNull, (h run).proper⟩, fun m hm => ?_⟩
      rw [List.mem_singleton.1 hm]
      exact (h run).depth_le
  simp only [nullableReader, readNullable] at read
  split at read
  · next eq => exact value (fun after => by rw [eq]; exact List.cons_ne_nil _ _ |>.symm) read
  · next c after eq =>
    split at read
    · split at read
      · cases read
      · cases read
        exact ⟨trivial, fun _ h => absurd h List.not_mem_nil⟩
    · next ne => exact value (fun after => by rw [eq]; exact fun h => ne (List.cons.inj h).1) read

mutual

/-- What is decoded can be told from its JSON, which nests no deeper than its text or its schema. -/
theorem Shape.yields_reader : {α : Type} → (shape : Shape α) → shape.Lawful → (d : Nat) →
    (shape.reader d).Yields (shape.Decoded d)
  | _, .text, _, _ => fun _ _ _ _ => ⟨trivial, Nat.zero_le _⟩
  | _, .flag, _, _ => fun _ _ _ _ => ⟨trivial, Nat.zero_le _⟩
  | _, .unsigned, _, _ => fun _ _ _ _ => ⟨trivial, Nat.zero_le _⟩
  | _, .signed, _, _ => fun _ _ _ _ => ⟨trivial, Nat.zero_le _⟩
  | _, .date, _, _ => fun _ _ _ _ => ⟨trivial, Nat.zero_le _⟩
  | _, .json, _, d => fun _ _ _ read =>
    have ⟨ordered, small⟩ := yields_valueReader d read
    ⟨ordered, Nat.le_trans small (Nat.le_max_left _ _)⟩
  | _, .texts, _, d => fun _ _ map _ => Shape.decoded_texts d map
  | _, .list item, lawful, d => by
    rw [Shape.reader]
    refine yields_bracketReader fun pos bracket reader inside => ?_
    cases bracket with
    | curly => cases inside
    | square =>
      cases inside
      exact fun _ _ _ read => Shape.decoded_list pos (yields_readItems (item.yields_reader lawful (d - 1)) read)
  | _, .record model fields form, lawful, d => by
    rw [Shape.reader]
    refine yields_bracketReader fun pos bracket reader inside => ?_
    cases bracket with
    | curly =>
      cases inside
      refine yields_membersReader (I := fields.Filled (d - 1))
        (fun slots name reader filled used => fields.yields_use lawful (d - 1) filled used)
        (fields.filled_start (d - 1)) fun slots a filled finished => ?_
      obtain ⟨row, done, rfl⟩ := exists_of_map_eq_ok finished
      exact Shape.decoded_record pos (fields.decoded_finish lawful filled done)
    | square =>
      cases inside
      exact Reader.Yields.map fun _ _ _ read =>
        Shape.decoded_record pos (fields.yields_row lawful _ (d - 1) 0 true read)
  | _, .openRecord model fields extra form, lawful, d => by
    rw [Shape.reader]
    refine yields_bracketReader fun pos bracket reader inside => ?_
    cases bracket with
    | square => cases inside
    | curly =>
      cases inside
      refine yields_membersReader (fun state name reader inv used => ?_)
        (fields.openFilled_start (d - 1)) fun state a inv finished => ?_
      · exact Fields.yields_openUse (fields.yields_use lawful (d - 1)) inv used
      · obtain ⟨row, done, rfl⟩ := exists_of_map_eq_ok finished
        exact Shape.decoded_openRecord pos (fields.decoded_finish lawful inv.1 done) inv.2

theorem Fields.yields_use : {β : Type} → (fields : Fields β) → fields.Lawful → (d : Nat) → {slots : fields.Slots} →
    {name : String} → {reader : Reader fields.Slots} → fields.Filled d slots →
    fields.use d slots name = .take reader → reader.Yields (fields.Filled d)
  | _, .nil, _, _, _, _, _, _, used => by
    rw [Fields.use] at used
    cases used
  | _, .cons field rest, lawful, d, slots, name, reader, filled, used => by
    obtain ⟨-, lawful, lawfulRest⟩ := lawful
    rw [Fields.use] at used
    split at used
    · split at used
      · cases used
      · cases used
        refine Reader.Yields.map fun _ _ _ read => ⟨fun a h => ?_, filled.2⟩
        cases h
        exact field.yields_reader lawful d read
    · obtain ⟨inner, taken, rfl⟩ := MemberUse.exists_of_map_eq_take used
      exact Reader.Yields.map fun _ _ _ read => ⟨filled.1, rest.yields_use lawfulRest d filled.2 taken read⟩

theorem Fields.yields_row : {β : Type} → (fields : Fields β) → fields.Lawful → (tooFew : Nat → Cause) →
    (d index : Nat) → (first : Bool) → (fields.row tooFew d index first).Yields (fields.Decoded d)
  | _, .nil, _, _, d, _, _ => fun _ _ _ _ => Fields.decoded_nil d
  | _, .cons field rest, lawful, tooFew, d, index, first => by
    obtain ⟨-, lawful, lawfulRest⟩ := lawful
    rw [Fields.row]
    intro s after row read
    obtain ⟨head, tail⟩ := yields_rowCons (field.yields_reader lawful d)
      (fun a absent => Field.decoded_absentFromRow lawful d absent)
      (fun first => rest.yields_row lawfulRest tooFew d (index + 1) first) first read
    exact Fields.decoded_cons head tail

theorem Field.yields_reader : {α : Type} → (field : Field α) → field.Lawful → (d : Nat) →
    (field.reader d).Yields (field.Decoded d)
  | _, .required _ shape, lawful, d => fun _ _ _ read =>
    have value := shape.yields_reader lawful d read
    ⟨value.proper, fun m hm => by rw [List.mem_singleton.1 hm]; exact value.depth_le⟩
  | _, .optional name shape, lawful, d => by
    rw [Field.reader]
    exact yields_nullable shape name (shape.yields_reader lawful d)
  | _, .defaulted name shape default, lawful, d => fun _ _ a read => by
    have value := shape.yields_reader lawful.1 d read
    refine ⟨value.proper, fun m hm => ?_⟩
    have small := value.depth_le
    rw [Field.eq_of_mem_encode_defaulted hm, Field.height]
    simp only
    omega

end

end Schema

end EntitlementClient
