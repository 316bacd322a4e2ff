/-
The grammar of JSON texts as a relation between a text, the value at its start and the rest. A value
is read from a text exactly when the grammar finds one there that does not nest too deep.
-/
import EntitlementClient.Json.Reader
import EntitlementClient.Proofs.Json.Sorted

namespace EntitlementClient.Json

/-! ## The grammar -/

mutual

/-- A text begins with a value, after which the rest stands. Members of objects are kept in the order
of the text, repeated names included. -/
inductive Reads : List Char → Json → List Char → Prop
  | scalar {s rest : List Char} (value : Scalar) (read : readScalar (skipSpace s) = .ok (value, rest)) :
      Reads s value.json rest
  | array {s inside rest : List Char} {items : List Json} (opens : skipSpace s = '[' :: inside)
      (inner : ReadsItems true inside items rest) : Reads s (.array items) rest
  | object {s inside rest : List Char} {members : List (String × Json)} (opens : skipSpace s = '{' :: inside)
      (inner : ReadsMembers true inside members rest) : Reads s (.object members) rest

/-- A text begins with the items of a list up to and with its closing bracket; the flag tells that
there has been no item before. -/
inductive ReadsItems : Bool → List Char → List Json → List Char → Prop
  | close {first : Bool} {s rest : List Char} (next : nextItem first s = .ok (.close rest)) :
      ReadsItems first s [] rest
  | item {first : Bool} {s at_ after rest : List Char} {json : Json} {items : List Json}
      (next : nextItem first s = .ok (.item at_)) (value : Reads at_ json after)
      (tail : ReadsItems false after items rest) : ReadsItems first s (json :: items) rest

/-- A text begins with the members of an object up to and with its closing brace; the flag tells that
there has been no member before. -/
inductive ReadsMembers : Bool → List Char → List (String × Json) → List Char → Prop
  | close {first : Bool} {s rest : List Char} (next : nextMember first s = .ok (.close rest)) :
      ReadsMembers first s [] rest
  | member {first : Bool} {s at_ chars afterName start after rest : List Char} {json : Json}
      {members : List (String × Json)} (next : nextMember first s = .ok (.item at_))
      (name : readString at_ = .ok (chars, afterName)) (colon : readColon afterName = .ok start)
      (value : Reads start json after) (tail : ReadsMembers false after members rest) :
      ReadsMembers first s ((String.ofList chars, json) :: members) rest

end

/-! ## Steps of the readers -/

section Steps

variable {α σ : Type} {first : Bool} {s rest at_ chars afterName start : List Char}

theorem readItems_close {item : Reader α} (next : nextItem first s = .ok (.close rest)) :
    readItems item first s = .ok ([], rest) := by
  rw [readItems]
  split <;> simp_all

theorem readItems_item {item : Reader α} (next : nextItem first s = .ok (.item at_)) :
    readItems item first s =
      (item.run at_).bind fun p => (readItems item false p.2).map fun q => (p.1 :: q.1, q.2) := by
  rw [readItems]
  split
  · simp_all
  · simp_all
  · next at' next' =>
    rw [next] at next'
    cases next'
    split
    · next read => rw [read]; rfl
    · next read =>
      rw [read]
      split
      · next tail => simp only [Except.bind, tail, Except.map]
      · next tail => simp only [Except.bind, tail, Except.map]

variable {use : σ → String → MemberUse σ} {state : σ}

theorem readMembers_close (next : nextMember first s = .ok (.close rest)) :
    readMembers use state first s = .ok (state, rest) := by
  rw [readMembers]
  split <;> simp_all

/-- What is read of an object after the name of a member, by the use of that name. -/
def readMemberBy (use : σ → String → MemberUse σ) (state : σ) (name : String) (s : List Char) :
    MemberUse σ → Except Fault (σ × List Char)
  | .repeated => .error (.before (.duplicateField name) (afterRepeated s))
  | .pass => (readColon s).bind fun start => (skip start).bind (readMembers use state false)
  | .take reader =>
    (readColon s).bind fun start => (reader.run start).bind fun p => readMembers use p.1 false p.2

/-- What is done with a member depends on the use of its name alone. -/
theorem readMembers_member (next : nextMember first s = .ok (.item at_))
    (name : readString at_ = .ok (chars, afterName)) :
    readMembers use state first s =
      readMemberBy use state (String.ofList chars) afterName (use state (String.ofList chars)) := by
  rw [readMembers]
  split
  · simp_all
  · simp_all
  next at' next' =>
  rw [next] at next'
  cases next'
  split
  · simp_all
  next name' =>
  rw [name] at name'
  cases name'
  split
  · next used => rw [used]; rfl
  · next used =>
    rw [used, readMemberBy]
    split
    · next colon => rw [colon]; rfl
    · next colon =>
      simp only [colon, Except.bind]
      split
      · next skipped => simp only [skipped]
      · next skipped => simp only [skipped]
  · next used =>
    rw [used, readMemberBy]
    split
    · next colon => rw [colon]; rfl
    · next colon =>
      simp only [colon, Except.bind]
      split
      · next read => simp only [read]
      · next read => simp only [read]

end Steps

/-! ## Reading by the grammar -/

theorem opening?_of_readScalar {s rest : List Char} {value : Scalar} (h : readScalar s = .ok (value, rest)) :
    opening? s = none := by
  cases s with
  | nil => rfl
  | cons c s =>
    rw [opening?]
    split
    · next eq => subst eq; simp [readScalar] at h
    · split
      · next eq => subst eq; simp [readScalar] at h
      · rfl

theorem opening?_cons_square (s : List Char) : opening? ('[' :: s) = some .square := rfl

theorem opening?_cons_curly (s : List Char) : opening? ('{' :: s) = some .curly := rfl

theorem Scalar.sorted_json (value : Scalar) : value.json.sorted = value.json := by
  cases value <;> rfl

theorem Scalar.depth_json (value : Scalar) : value.json.depth = 0 := by
  cases value <;> rfl

theorem valueReader_scalar {s : List Char} (d : Nat) (opens : opening? (skipSpace s) = none) :
    (valueReader d).run s = (readScalar (skipSpace s)).map fun p => (p.1.json, p.2) := by
  cases d <;>
  · simp only [valueReader, jsonReader, readValue, opens]
    split <;> next read => rw [read]; rfl

theorem valueReader_zero {s : List Char} {bracket : Bracket} (opens : opening? (skipSpace s) = some bracket) :
    (valueReader 0).run s = .error (.within .tooDeep (skipSpace s)) := by
  simp only [valueReader, jsonReader, readValue, opens]

/-- The members of an object are put into a map one by one. -/
def insertMember (inner : Reader Json) (map : NameMap Json) (name : String) : MemberUse (NameMap Json) :=
  .take (inner.map (NameMap.insert map name))

theorem valueReader_array {s inside : List Char} (d : Nat) (opens : skipSpace s = '[' :: inside) :
    (valueReader (d + 1)).run s =
      (readItems (valueReader d) true inside).map fun p => (.array p.1, p.2) := by
  simp only [valueReader, jsonReader, readValue, opens, opening?_cons_square, List.drop_succ_cons, List.drop_zero]
  split <;> next read => rw [read]; rfl

theorem valueReader_object {s inside : List Char} (d : Nat) (opens : skipSpace s = '{' :: inside) :
    (valueReader (d + 1)).run s =
      (readMembers (insertMember (valueReader d)) .empty true inside).map fun p => (.object p.1.entries, p.2) := by
  simp only [valueReader, jsonReader, readValue, opens, opening?_cons_curly, List.drop_succ_cons, List.drop_zero]
  split <;> next read => rw [show readMembers (insertMember (valueReader d)) .empty true inside = _ from read]; rfl

mutual

/-- A value of the grammar is read, and put in order, if it does not nest too deep. -/
theorem Reads.value {s rest : List Char} {json : Json} (h : Reads s json rest) (d : Nat) (small : json.depth ≤ d) :
    (valueReader d).run s = .ok (json.sorted, rest) := by
  match h with
  | .scalar _ read =>
    rw [valueReader_scalar d (opening?_of_readScalar read), read, Scalar.sorted_json]
    rfl
  | .array opens inner =>
    obtain _ | d := d
    · exact absurd small (Nat.not_succ_le_zero _)
    · rw [valueReader_array d opens, inner.value d (Nat.le_of_succ_le_succ small)]
      rfl
  | .object opens inner =>
    obtain _ | d := d
    · exact absurd small (Nat.not_succ_le_zero _)
    · rw [valueReader_object d opens, inner.value d (Nat.le_of_succ_le_succ small)]
      rfl

theorem ReadsItems.value {first : Bool} {s rest : List Char} {items : List Json} (h : ReadsItems first s items rest)
    (d : Nat) (small : itemsDepth items ≤ d) :
    readItems (valueReader d) first s = .ok (sortedItems items, rest) := by
  match h with
  | .close next => exact readItems_close next
  | .item next value tail =>
    obtain ⟨small, smallTail⟩ := Nat.max_le.1 small
    rw [readItems_item next, value.value d small]
    simp only [Except.bind, tail.value d smallTail]
    rfl

theorem ReadsMembers.value {first : Bool} {s rest : List Char} {members : List (String × Json)}
    (h : ReadsMembers first s members rest) (d : Nat) (small : membersDepth members ≤ d) (map : NameMap Json) :
    readMembers (insertMember (valueReader d)) map first s = .ok (sortedMembers members map, rest) := by
  match h with
  | .close next => exact readMembers_close next
  | .member next name colon value tail =>
    obtain ⟨small, smallTail⟩ := Nat.max_le.1 small
    rw [readMembers_member next name]
    simp only [insertMember, readMemberBy, colon, Except.bind, Reader.map, Reader.runMap, value.value d small]
    exact tail.value d smallTail _

end

/-! ## What is read obeys the grammar -/

/-- The character that opens a bracket. -/
def Bracket.start : Bracket → Char
  | .square => '['
  | .curly => '{'

theorem eq_start_of_opening? {s : List Char} {bracket : Bracket} (h : opening? s = some bracket) :
    s = bracket.start :: s.drop 1 := by
  cases s with
  | nil => cases h
  | cons c s =>
    rw [opening?] at h
    split at h
    · next eq => cases h; subst eq; rfl
    · split at h
      · next eq => cases h; subst eq; rfl
      · cases h

theorem exists_reads_of_scalar {s rest : List Char} {value : Json} {d : Nat}
    (opens : opening? (skipSpace s) = none) (h : (valueReader d).run s = .ok (value, rest)) :
    ∃ json, Reads s json rest ∧ json.depth ≤ d ∧ json.sorted = value := by
  rw [valueReader_scalar d opens] at h
  cases read : readScalar (skipSpace s) with
  | error fault => rw [read] at h; cases h
  | ok pair =>
    rw [read] at h
    cases h
    exact ⟨_, .scalar _ read, Nat.le_trans (Nat.le_of_eq (Scalar.depth_json _)) (Nat.zero_le d), Scalar.sorted_json _⟩

/-- The items that are read stand in the text by the grammar if every item does. -/
theorem exists_readsItems {item : Reader Json} {d : Nat}
    (each : ∀ {s value rest}, item.run s = .ok (value, rest) →
      ∃ json, Reads s json rest ∧ json.depth ≤ d ∧ json.sorted = value)
    {first : Bool} {s rest : List Char} {values : List Json} (h : readItems item first s = .ok (values, rest)) :
    ∃ items, ReadsItems first s items rest ∧ itemsDepth items ≤ d ∧ sortedItems items = values := by
  fun_induction readItems item first s generalizing values rest with
  | case1 => cases h
  | case2 first s rest next => cases h; exact ⟨[], .close next, Nat.zero_le _, rfl⟩
  | case3 => cases h
  | case4 => cases h
  | case5 first s at_ next a after read values' rest' tail ih =>
    cases h
    obtain ⟨json, value, small, rfl⟩ := each read
    obtain ⟨items, inner, smallTail, rfl⟩ := ih tail
    exact ⟨json :: items, .item next value inner, Nat.max_le.2 ⟨small, smallTail⟩, rfl⟩

/-- The members that are read stand in the text by the grammar if every value does. -/
theorem exists_readsMembers {item : Reader Json} {d : Nat}
    (each : ∀ {s value rest}, item.run s = .ok (value, rest) →
      ∃ json, Reads s json rest ∧ json.depth ≤ d ∧ json.sorted = value)
    {first : Bool} {s rest : List Char} {map final : NameMap Json}
    (h : readMembers (insertMember item) map first s = .ok (final, rest)) :
    ∃ members, ReadsMembers first s members rest ∧ membersDepth members ≤ d ∧ sortedMembers members map = final := by
  fun_induction readMembers (insertMember item) map first s with
  | case1 => cases h
  | case2 map first s rest next => cases h; exact ⟨[], .close next, Nat.zero_le _, rfl⟩
  | case3 => cases h
  | case4 => cases h
  | case5 => cases h
  | case6 => cases h
  | case7 _ _ _ _ _ _ _ _ used => cases used
  | case8 => cases h
  | case9 => cases h
  | case10 map first s at_ next chars afterName name reader used start colon map' after read ih =>
    cases used
    simp only [Reader.map, Reader.runMap] at read
    split at read
    · cases read
    · next run =>
      cases read
      obtain ⟨json, value, small, rfl⟩ := each run
      obtain ⟨members, inner, smallTail, rfl⟩ := ih h
      exact ⟨(String.ofList chars, json) :: members, .member next name colon value inner,
        Nat.max_le.2 ⟨small, smallTail⟩, rfl⟩

/-- A value that is read is one of the grammar that has been put in order. -/
theorem exists_reads_of_value {s rest : List Char} {value : Json} {d : Nat}
    (h : (valueReader d).run s = .ok (value, rest)) :
    ∃ json, Reads s json rest ∧ json.depth ≤ d ∧ json.sorted = value := by
  induction d generalizing s rest value with
  | zero =>
    cases opens : opening? (skipSpace s) with
    | none => exact exists_reads_of_scalar opens h
    | some bracket => rw [valueReader_zero opens] at h; cases h
  | succ d ih =>
    cases opens : opening? (skipSpace s) with
    | none => exact exists_reads_of_scalar opens h
    | some bracket =>
      have eq := eq_start_of_opening? opens
      cases bracket with
      | square =>
        rw [valueReader_array d eq] at h
        cases read : readItems (valueReader d) true ((skipSpace s).drop 1) with
        | error fault => rw [read] at h; cases h
        | ok pair =>
          rw [read] at h
          cases h
          obtain ⟨items, inner, small, sorted⟩ := exists_readsItems ih read
          exact ⟨.array items, .array eq inner, Nat.succ_le_succ small, congrArg Json.array sorted⟩
      | curly =>
        rw [valueReader_object d eq] at h
        cases read : readMembers (insertMember (valueReader d)) .empty true ((skipSpace s).drop 1) with
        | error fault => rw [read] at h; cases h
        | ok pair =>
          rw [read] at h
          cases h
          obtain ⟨members, inner, small, sorted⟩ := exists_readsMembers ih read
          refine ⟨.object members, .object eq inner, Nat.succ_le_succ small, ?_⟩
          rw [Json.sorted, sorted]

/-! ## Whole texts -/

/-- A text stands for a value, its objects in order, if by the grammar it holds that value and nothing after it
but blanks. How deep the value nests does not matter. -/
def Denotes (text : List Char) (value : Json) : Prop :=
  ∃ json rest, Reads text json rest ∧ skipSpace rest = [] ∧ json.sorted = value

/-- A text stands for one value at most. -/
theorem Denotes.unique {text : List Char} {value value' : Json} (h : Denotes text value) (h' : Denotes text value') :
    value = value' := by
  obtain ⟨json, rest, reads, -, rfl⟩ := h
  obtain ⟨json', rest', reads', -, rfl⟩ := h'
  have read := reads.value (max json.depth json'.depth) (Nat.le_max_left _ _)
  have read' := reads'.value (max json.depth json'.depth) (Nat.le_max_right _ _)
  exact congrArg Prod.fst (Except.ok.inj (read.symm.trans read'))

end EntitlementClient.Json
