/-
Every text that is decoded has been written by the grammar of the interchange format: what is read of it is a
value up to the place where reading ends, the members that are passed over included.
-/
import EntitlementClient.Proofs.Json.Extent
import EntitlementClient.Proofs.Schema.Decoded

namespace EntitlementClient

open EntitlementClient.Json

namespace Json

variable {α β σ : Type}

/-! ## Readers -/

/-- Whether all that a reader reads has been written as a value. -/
def Reader.Spans (reader : Reader α) : Prop :=
  ∀ ⦃s rest : List Char⦄ ⦃a : α⦄, reader.run s = .ok (a, rest) → ∃ x : Source, skipSpace s = x.bare ++ rest

/-- Whether a text has been written as the items of a list, its closing bracket and a rest. -/
def HoldsItems (first : Bool) (s rest : List Char) : Prop :=
  ∃ (before : Blanks) (items : List Source), s = before.chars ++ (Source.itemsText first items ++ ']' :: rest)

/-- Whether a text has been written as the members of an object, its closing brace and a rest. -/
def HoldsMembers (first : Bool) (s rest : List Char) : Prop :=
  ∃ (before : Blanks) (members : List (Key × Source)),
    s = before.chars ++ (Source.membersText first members ++ '}' :: rest)

theorem exists_eq_blanks_append {s t : List Char} (h : skipSpace s = t) : ∃ before : Blanks, s = before.chars ++ t :=
  h ▸ exists_blanks s

theorem Reader.Spans.map {reader : Reader β} (h : reader.Spans) (f : β → α) : (reader.map f).Spans := by
  intro s rest a read
  simp only [Reader.map, Reader.runMap] at read
  split at read
  · cases read
  · next run => cases read; exact h run

theorem spans_of_skip {s rest : List Char} (h : skip s = .ok rest) : ∃ x : Source, skipSpace s = x.bare ++ rest := by
  obtain ⟨before, x, mid, rfl, done⟩ := begins s [] rest h
  rw [skipAfter] at done
  cases done
  exact ⟨x, x.skipSpace_bare before rest⟩

theorem spans_of_skipScalar {s rest : List Char} (h : skipScalar s = .ok rest) : ∃ x : Source, s = x.bare ++ rest := by
  obtain ⟨chars, rfl, isScalar⟩ := exists_of_skipScalar h
  exact ⟨.scalar ⟨.none, .none⟩ chars isScalar, rfl⟩

theorem spans_scalarReader (expected : Expected) (pick : Scalar → Except Cause α) :
    (scalarReader expected pick).Spans := by
  intro s rest a read
  simp only [scalarReader, readPicked] at read
  split at read
  · cases read
  split at read
  · cases read
  · next scalar =>
    split at read
    · cases read
      exact spans_of_skipScalar (skipScalar_of_readScalar scalar)
    · cases read

theorem spans_valueReader (d : Nat) : (valueReader d).Spans := by
  intro s rest json read
  obtain ⟨raw, reads, -⟩ := exists_reads_of_value read
  exact spans_of_skip reads.skip

/-! ## Lists and objects -/

theorem holdsItems_close {first : Bool} {s rest : List Char} (next : nextItem first s = .ok (.close rest)) :
    HoldsItems first s rest := by
  obtain ⟨before, eq⟩ := exists_eq_blanks_append (nextItem_close next)
  exact ⟨before, [], eq⟩

theorem holdsItems_item {first : Bool} {s at_ after rest : List Char} (next : nextItem first s = .ok (.item at_))
    (value : ∃ x : Source, skipSpace at_ = x.bare ++ after) (tail : HoldsItems false after rest) :
    HoldsItems first s rest := by
  obtain ⟨x, value⟩ := value
  obtain ⟨behind, items, rfl⟩ := tail
  cases first with
  | true =>
    obtain ⟨rfl, -⟩ := nextItem_first next
    rw [skipSpace_skipSpace] at value
    obtain ⟨before, rfl⟩ := exists_eq_blanks_append value
    refine ⟨before, x.padded ⟨.none, behind⟩ :: items, ?_⟩
    rw [Source.itemsText_padded_append]
    rfl
  | false =>
    obtain ⟨t, comma, rfl⟩ := nextItem_next next
    rw [skipSpace_skipSpace] at value
    obtain ⟨space, rfl⟩ := exists_eq_blanks_append value
    obtain ⟨before, rfl⟩ := exists_eq_blanks_append comma
    refine ⟨before, x.padded ⟨space, behind⟩ :: items, ?_⟩
    rw [Source.itemsText_padded_append]
    rfl

theorem holdsItems_readItems {item : Reader α} (h : item.Spans) {first : Bool} {s rest : List Char} {values : List α}
    (read : readItems item first s = .ok (values, rest)) : HoldsItems first s rest := by
  fun_induction readItems item first s generalizing values rest with
  | case1 => cases read
  | case2 first s rest next => cases read; exact holdsItems_close next
  | case3 => cases read
  | case4 => cases read
  | case5 first s at_ next a after run values' rest' tail ih =>
    cases read
    exact holdsItems_item next (h run) (ih tail)

theorem holdsMembers_close {first : Bool} {s rest : List Char} (next : nextMember first s = .ok (.close rest)) :
    HoldsMembers first s rest := by
  obtain ⟨before, eq⟩ := exists_eq_blanks_append (nextMember_close next)
  exact ⟨before, [], eq⟩

theorem holdsMembers_member {first : Bool} {s at_ chars afterName start after rest : List Char}
    (next : nextMember first s = .ok (.item at_)) (name : readString at_ = .ok (chars, afterName))
    (colon : readColon afterName = .ok start) (value : ∃ x : Source, skipSpace start = x.bare ++ after)
    (tail : HoldsMembers false after rest) : HoldsMembers first s rest := by
  obtain ⟨x, value⟩ := value
  obtain ⟨behind, members, rfl⟩ := tail
  obtain ⟨space, rfl⟩ := exists_eq_blanks_append value
  obtain ⟨behindName, rfl⟩ := exists_of_readColon colon
  obtain ⟨quoted, rfl, isQuoted⟩ := exists_of_skipString (skipString_of_readString name)
  cases first with
  | true =>
    obtain ⟨before, rfl⟩ := exists_eq_blanks_append (nextMember_first next)
    refine ⟨before, (⟨⟨.none, behindName⟩, quoted, isQuoted⟩, x.padded ⟨space, behind⟩) :: members, ?_⟩
    rw [Source.membersText_padded_append]
    rfl
  | false =>
    obtain ⟨t, comma, quote⟩ := nextMember_next next
    obtain ⟨spaceName, rfl⟩ := exists_eq_blanks_append quote
    obtain ⟨before, rfl⟩ := exists_eq_blanks_append comma
    refine ⟨before, (⟨⟨spaceName, behindName⟩, quoted, isQuoted⟩, x.padded ⟨space, behind⟩) :: members, ?_⟩
    rw [Source.membersText_padded_append]
    rfl

theorem holdsMembers_readMembers {use : σ → String → MemberUse σ}
    (h : ∀ state name reader, use state name = .take reader → reader.Spans) {state final : σ} {first : Bool}
    {s rest : List Char} (read : readMembers use state first s = .ok (final, rest)) : HoldsMembers first s rest := by
  fun_induction readMembers use state first s with
  | case1 => cases read
  | case2 state first s rest next => cases read; exact holdsMembers_close next
  | case3 => cases read
  | case4 => cases read
  | case5 => cases read
  | case6 => cases read
  | case7 _ _ _ _ next _ _ name _ _ colon _ skipped ih =>
    exact holdsMembers_member next name colon (spans_of_skip skipped) (ih read)
  | case8 => cases read
  | case9 => cases read
  | case10 _ _ _ _ next _ _ name _ used _ colon _ _ run ih =>
    exact holdsMembers_member next name colon (h _ _ _ used run) (ih read)

end Json

namespace Schema

variable {α β σ : Type}

/-! ## Brackets -/

theorem spans_bracketReader {expected : Expected} {d : Nat} {inside : Bracket → Option (Reader α)}
    (items : ∀ reader, inside .square = some reader → ∀ ⦃s rest a⦄, reader.run s = .ok (a, rest) →
      HoldsItems true s rest)
    (members : ∀ reader, inside .curly = some reader → ∀ ⦃s rest a⦄, reader.run s = .ok (a, rest) →
      HoldsMembers true s rest) : (bracketReader expected d inside).Spans := by
  intro s rest a read
  simp only [bracketReader, readBracket] at read
  split at read
  · cases read
  next reader found =>
  obtain ⟨bracket, opens, found⟩ := Option.bind_eq_some_iff.1 found
  split at read
  · cases read
  rw [eq_start_of_opening? opens]
  cases bracket with
  | square =>
    obtain ⟨inside, list, eq⟩ := items reader found read
    refine ⟨.array ⟨.none, .none⟩ inside list, ?_⟩
    rw [eq, Source.bare_array_append]
    rfl
  | curly =>
    obtain ⟨inside, list, eq⟩ := members reader found read
    refine ⟨.object ⟨.none, .none⟩ inside list, ?_⟩
    rw [eq, Source.bare_object_append]
    rfl

theorem holdsMembers_membersReader {use : σ → String → MemberUse σ} {start : σ} {finish : σ → Except Cause α}
    (h : ∀ state name reader, use state name = .take reader → reader.Spans) {s rest : List Char} {a : α}
    (read : (membersReader use start finish).run s = .ok (a, rest)) : HoldsMembers true s rest := by
  simp only [membersReader, readObject] at read
  split at read
  · cases read
  · next members =>
    split at read
    · cases read
    · cases read
      exact holdsMembers_readMembers h members

theorem holdsItems_readRowEnd {first : Bool} {s rest : List Char} {u : Unit} (read : readRowEnd s = .ok (u, rest)) :
    HoldsItems first s rest := by
  unfold readRowEnd at read
  split at read
  · cases read
  next c t eq =>
  split at read
  · next close =>
    cases read
    rw [close] at eq
    obtain ⟨before, rfl⟩ := exists_eq_blanks_append eq
    exact ⟨before, [], rfl⟩
  split at read
  · split at read <;> cases read
  · cases read

theorem holdsItems_readRow {item : Reader α} {absent : Except Cause α} {tail : Bool → Reader β} (head : item.Spans)
    (others : ∀ first s rest b, (tail first).run s = .ok (b, rest) → HoldsItems first s rest) {first : Bool}
    {s rest : List Char} {row : α × β} (read : readRow item absent tail first s = .ok (row, rest)) :
    HoldsItems first s rest := by
  unfold readRow at read
  split at read
  · cases read
  · split at read
    · cases read
    · split at read
      · cases read
      · next run => cases read; exact others first _ _ _ run
  · next next =>
    split at read
    · cases read
    · next run =>
      split at read
      · cases read
      · next run' => cases read; exact holdsItems_item next (head run) (others false _ _ _ run')

theorem spans_nullableReader {reader : Reader α} (h : reader.Spans) : (nullableReader reader).Spans := by
  intro s rest a read
  simp only [nullableReader, readNullable] at read
  split at read
  · exact h.map some read
  next c t eq =>
  split at read
  · next n =>
    split at read
    · cases read
    · next literal =>
      cases read
      rw [eq, n, eq_append_of_readLiteral literal]
      exact ⟨.scalar ⟨.none, .none⟩ _ .nullLiteral, rfl⟩
  · exact h.map some read

/-! ## Models -/

mutual

/-- What is decoded has been written as a value. -/
theorem Shape.spans_reader : {α : Type} → (shape : Shape α) → (d : Nat) → (shape.reader d).Spans
  | _, .text, _ => spans_scalarReader .text pickText
  | _, .flag, _ => spans_scalarReader .flag pickFlag
  | _, .unsigned, _ => spans_scalarReader .unsigned pickUnsigned
  | _, .signed, _ => spans_scalarReader .signed pickSigned
  | _, .date, _ => spans_scalarReader .date pickDate
  | _, .json, d => spans_valueReader d
  | _, .texts, d => by
    rw [Shape.reader]
    refine spans_bracketReader (fun _ none => nomatch none) fun reader inside => ?_
    cases inside
    refine fun _ _ _ => holdsMembers_membersReader fun map name reader used => ?_
    cases used
    exact (spans_scalarReader .text pickText).map _
  | _, .list item, d => by
    rw [Shape.reader]
    refine spans_bracketReader (fun reader inside => ?_) fun _ none => nomatch none
    cases inside
    exact fun _ _ _ => holdsItems_readItems (item.spans_reader (d - 1))
  | _, .record model fields form, d => by
    rw [Shape.reader]
    refine spans_bracketReader (fun reader inside => ?_) fun reader inside => ?_
    · cases inside
      intro s rest a read
      simp only [Reader.map, Reader.runMap] at read
      split at read
      · cases read
      · next run => cases read; exact fields.holdsItems_row _ (d - 1) 0 true run
    · cases inside
      exact fun _ _ _ => holdsMembers_membersReader (fields.spans_use (d - 1))
  | _, .openRecord model fields extra form, d => by
    rw [Shape.reader]
    refine spans_bracketReader (fun _ none => nomatch none) fun reader inside => ?_
    cases inside
    refine fun _ _ _ => holdsMembers_membersReader fun state name reader used => ?_
    split at used
    · cases used
      exact (spans_valueReader (d - 1)).map _
    · obtain ⟨inner, taken, rfl⟩ := MemberUse.exists_of_map_eq_take used
      exact (fields.spans_use (d - 1) state.1 name inner taken).map _

theorem Fields.spans_use : {β : Type} → (fields : Fields β) → (d : Nat) → ∀ slots name reader,
    fields.use d slots name = .take reader → reader.Spans
  | _, .nil, _, _, _, _, used => by
    rw [Fields.use] at used
    cases used
  | _, .cons field rest, d, slots, name, reader, used => by
    rw [Fields.use] at used
    split at used
    · split at used
      · cases used
      · cases used
        exact (field.spans_reader d).map _
    · obtain ⟨inner, taken, rfl⟩ := MemberUse.exists_of_map_eq_take used
      exact (rest.spans_use d slots.2 name inner taken).map _

theorem Fields.holdsItems_row : {β : Type} → (fields : Fields β) → (tooFew : Nat → Cause) → (d index : Nat) →
    (first : Bool) → {s rest : List Char} → {row : β} →
    (fields.row tooFew d index first).run s = .ok (row, rest) → HoldsItems first s rest
  | _, .nil, _, _, _, _, _, _, _, read => by
    rw [Fields.row] at read
    exact holdsItems_readRowEnd read
  | _, .cons field rest, tooFew, d, index, first, _, _, _, read => by
    rw [Fields.row] at read
    exact holdsItems_readRow (field.spans_reader d)
      (fun first _ _ _ run => rest.holdsItems_row tooFew d (index + 1) first run) read

theorem Field.spans_reader : {α : Type} → (field : Field α) → (d : Nat) → (field.reader d).Spans
  | _, .required _ shape, d => by
    rw [Field.reader]
    exact shape.spans_reader d
  | _, .optional _ shape, d => by
    rw [Field.reader]
    exact spans_nullableReader (shape.spans_reader d)
  | _, .defaulted _ shape _, d => by
    rw [Field.reader]
    exact shape.spans_reader d

end

/-- Every text that is decoded has been written by the grammar. -/
theorem Shape.exists_source_of_decode {shape : Shape α} {s : List Char} {a : α} (h : shape.decode s = .ok a) :
    ∃ x : Source, x.text = s := by
  unfold Shape.decode at h
  split at h
  · cases h
  next rest read =>
  split at h
  · next blank =>
    obtain ⟨x, value⟩ := shape.spans_reader depthLimit read
    obtain ⟨before, rfl⟩ := exists_eq_blanks_append value
    obtain ⟨after, rfl⟩ := exists_eq_blanks_append blank
    refine ⟨x.padded ⟨before, after⟩, ?_⟩
    simp [Source.text, Pad.around]
  · cases h

end Schema

end EntitlementClient
