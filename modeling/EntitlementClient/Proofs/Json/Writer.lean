/-
The written form of a value stands in the grammar for that value: what has been written is read back
with its members in the order in which they were written.
-/
import EntitlementClient.Proofs.Json.Skip

namespace EntitlementClient.Json

/-! ## Starts of values -/

theorem isSpace_of_isDigit {c : Char} (h : c.isDigit = true) : isSpace c = false := by
  rw [isSpace, decide_eq_false_iff_not]
  rintro (rfl | rfl | rfl | rfl) <;> exact absurd h (by decide)

theorem exists_writeInt_eq_cons (n : Int) :
    ∃ c s, writeInt n = c :: s ∧ (c = '-' ∨ c.isDigit = true) := by
  unfold writeInt
  split
  · exact ⟨'-', _, rfl, .inl rfl⟩
  · cases eq : Nat.toDigits 10 n.natAbs with
    | nil => exact absurd eq Nat.toDigits_ne_nil
    | cons c s =>
      have digit : c.isDigit = true := Nat.isDigit_of_mem_toDigits (by decide) (by decide) (eq ▸ List.mem_cons_self)
      exact ⟨c, s, rfl, .inr digit⟩

/-- Whether a text begins as a value does: with no blank and no bracket that closes. -/
def StartsValue (s : List Char) : Prop :=
  ∃ c rest, s = c :: rest ∧ isSpace c = false ∧ c ≠ ']'

theorem StartsValue.append {s : List Char} (h : StartsValue s) (t : List Char) : StartsValue (s ++ t) := by
  obtain ⟨c, rest, rfl, space, ne⟩ := h
  exact ⟨c, rest ++ t, rfl, space, ne⟩

theorem startsValue_write {json : Json} (h : json.integral = true) : StartsValue json.write := by
  cases json with
  | null => exact ⟨'n', _, rfl, by decide, by decide⟩
  | bool b => cases b <;> exact ⟨_, _, rfl, by decide, by decide⟩
  | text s => exact ⟨'"', _, rfl, by decide, by decide⟩
  | array items => exact ⟨'[', _, rfl, by decide, by decide⟩
  | object members => exact ⟨'{', _, rfl, by decide, by decide⟩
  | number n =>
    cases n with
    | double => cases h
    | integer n =>
      obtain ⟨c, s, eq, start⟩ := exists_writeInt_eq_cons n
      refine ⟨c, s, by rw [write, JsonNumber.write, eq], ?_⟩
      rcases start with rfl | digit
      · decide
      · refine ⟨isSpace_of_isDigit digit, ?_⟩
        rintro rfl
        exact absurd digit (by decide)

/-! ## Steps of the grammar on written values -/

/-- An item of a list with the comma in front of it, unless it is the first. -/
def lead (first : Bool) (s : List Char) : List Char :=
  if first then s else ',' :: s

theorem nextItem_lead (first : Bool) {s : List Char} (h : StartsValue s) :
    nextItem first (lead first s) = .ok (.item s) := by
  obtain ⟨c, rest, rfl, space, ne⟩ := h
  unfold nextItem lead
  cases first
  · rw [if_neg (by decide), skipSpace_eq_self (by decide)]
    simp [skipSpace_eq_self space, ne]
  · rw [if_pos rfl, skipSpace_eq_self space]
    simp [ne]

theorem nextMember_lead (first : Bool) (s : List Char) : nextMember first (lead first ('"' :: s)) = .ok (.item s) := by
  unfold nextMember lead
  cases first
  · rw [if_neg (by decide), skipSpace_eq_self (by decide)]
    rfl
  · rw [if_pos rfl, skipSpace_eq_self (by decide)]
    rfl

theorem nextItem_bracket (first : Bool) (rest : List Char) : nextItem first (']' :: rest) = .ok (.close rest) := by
  unfold nextItem
  rw [skipSpace_eq_self (by decide)]
  rfl

theorem nextMember_brace (first : Bool) (rest : List Char) : nextMember first ('}' :: rest) = .ok (.close rest) := by
  unfold nextMember
  rw [skipSpace_eq_self (by decide)]
  rfl

theorem readColon_colon (s : List Char) : readColon (':' :: s) = .ok s := by
  unfold readColon
  rw [skipSpace_eq_self (by decide)]
  rfl

theorem endsNumeral_nil : EndsNumeral [] := by
  intro c hc
  cases hc

theorem endsNumeral_cons {c : Char} (h : c ∈ [',', ']', '}']) (s : List Char) : EndsNumeral (c :: s) := by
  intro d hd
  cases hd
  simp only [List.mem_cons, List.not_mem_nil, or_false] at h
  rcases h with rfl | rfl | rfl <;> decide

/-! ## Written values -/

theorem readScalar_writeInt (n : Int) (low : -0x8000000000000000 ≤ n) (high : n < 0x10000000000000000)
    {rest : List Char} (h : EndsNumeral rest) :
    readScalar (skipSpace (writeInt n ++ rest)) = .ok (.number (.integer n low high), rest) := by
  obtain ⟨c, s, eq, start⟩ := exists_writeInt_eq_cons n
  have read := readNumber_writeInt n low high h
  rw [eq] at read ⊢
  have letters : isSpace c = false ∧ c ≠ 'n' ∧ c ≠ 't' ∧ c ≠ 'f' := by
    rcases start with rfl | digit
    · decide
    · refine ⟨isSpace_of_isDigit digit, ?_⟩
      refine ⟨?_, ?_, ?_⟩ <;> rintro rfl <;> exact absurd digit (by decide)
  obtain ⟨space, n', t, f⟩ := letters
  rw [List.cons_append] at read ⊢
  rw [skipSpace_eq_self space, readScalar, if_neg n', if_neg t, if_neg f, if_pos start, read]
  rfl

/-- Whether a value is read back from its written form, whatever follows. -/
def Written (json : Json) : Prop :=
  StartsValue json.write ∧ ∀ rest, EndsNumeral rest → Reads (json.write ++ rest) json rest

theorem readsItems_write (rest : List Char) (items : List Json) : ∀ (first : Bool) (json : Json),
    (∀ item ∈ json :: items, Written item) →
      ReadsItems first (lead first (writeItems (json :: items) ++ ']' :: rest)) (json :: items) rest := by
  induction items with
  | nil =>
    intro first json h
    obtain ⟨starts, value⟩ := h json List.mem_cons_self
    exact .item (nextItem_lead first (starts.append _)) (value _ (endsNumeral_cons (by decide) rest))
      (.close (nextItem_bracket false rest))
  | cons next items ih =>
    intro first json h
    obtain ⟨starts, value⟩ := h json List.mem_cons_self
    have text : writeItems (json :: next :: items) ++ ']' :: rest =
        json.write ++ lead false (writeItems (next :: items) ++ ']' :: rest) := by
      simp [writeItems, lead]
    rw [text]
    exact .item (nextItem_lead first (starts.append _)) (value _ (endsNumeral_cons (by decide) _))
      (ih false next fun item hi => h item (.tail _ hi))

theorem readsMembers_member_write (first : Bool) (name : String) {json : Json} {members : List (String × Json)}
    {after rest : List Char} (value : Reads (json.write ++ after) json after)
    (tail : ReadsMembers false after members rest) :
    ReadsMembers first (lead first (writeString name ++ ':' :: (json.write ++ after)))
      ((name, json) :: members) rest := by
  obtain ⟨t, eq, read⟩ := exists_writeString_append name (':' :: (json.write ++ after))
  have member := ReadsMembers.member (nextMember_lead first t) read (readColon_colon _) value tail
  rwa [String.ofList_toList, ← eq] at member

theorem readsMembers_write (rest : List Char) (members : List (String × Json)) : ∀ (first : Bool) (m : String × Json),
    (∀ m' ∈ m :: members, Written m'.2) →
      ReadsMembers first (lead first (writeMembers (m :: members) ++ '}' :: rest)) (m :: members) rest := by
  induction members with
  | nil =>
    rintro first ⟨name, json⟩ h
    obtain ⟨-, value⟩ := h (name, json) List.mem_cons_self
    have text :
        writeMembers [(name, json)] ++ '}' :: rest = writeString name ++ ':' :: (json.write ++ '}' :: rest) := by
      simp [writeMembers]
    rw [text]
    exact readsMembers_member_write first name (value _ (endsNumeral_cons (by decide) rest))
      (.close (nextMember_brace false rest))
  | cons next members ih =>
    rintro first ⟨name, json⟩ h
    obtain ⟨-, value⟩ := h (name, json) List.mem_cons_self
    have text : writeMembers ((name, json) :: next :: members) ++ '}' :: rest =
        writeString name ++ ':' :: (json.write ++ lead false (writeMembers (next :: members) ++ '}' :: rest)) := by
      simp [writeMembers, lead]
    rw [text]
    exact readsMembers_member_write first name (value _ (endsNumeral_cons (by decide) _))
      (ih false next fun m hm => h m (.tail _ hm))

theorem written_array {items : List Json} (h : ∀ item ∈ items, Written item) : Written (.array items) := by
  refine ⟨⟨'[', _, rfl, by decide, by decide⟩, fun rest _ => ?_⟩
  have text : write (.array items) ++ rest = '[' :: (writeItems items ++ ']' :: rest) := by simp [write]
  rw [text]
  refine .array (skipSpace_eq_self (by decide) _) ?_
  cases items with
  | nil => exact .close (nextItem_bracket true rest)
  | cons json items => exact readsItems_write rest items true json h

theorem written_object {members : List (String × Json)} (h : ∀ m ∈ members, Written m.2) :
    Written (.object members) := by
  refine ⟨⟨'{', _, rfl, by decide, by decide⟩, fun rest _ => ?_⟩
  have text : write (.object members) ++ rest = '{' :: (writeMembers members ++ '}' :: rest) := by simp [write]
  rw [text]
  refine .object (skipSpace_eq_self (by decide) _) ?_
  cases members with
  | nil => exact .close (nextMember_brace true rest)
  | cons m members => exact readsMembers_write rest members true m h

/-- A value whose numbers are integers is read back from its written form. -/
theorem written {json : Json} (h : json.integral = true) : Written json := by
  induction json using induction with
  | null => exact ⟨startsValue_write h, fun rest _ => .scalar .null rfl⟩
  | bool b => exact ⟨startsValue_write h, fun rest _ => by cases b <;> exact .scalar (.bool _) rfl⟩
  | number n =>
    cases n with
    | double => cases h
    | integer n low high =>
      exact ⟨startsValue_write h, fun rest ends => .scalar _ (readScalar_writeInt n low high ends)⟩
  | text s =>
    refine ⟨startsValue_write h, fun rest _ => ?_⟩
    obtain ⟨t, eq, read⟩ := exists_writeString_append s rest
    have scalar : readScalar (skipSpace ('"' :: t)) = .ok (.text s, rest) := by
      rw [skipSpace_eq_self (by decide)]
      simp [readScalar, read, Except.map, String.ofList_toList]
    rw [write, eq]
    exact .scalar (.text s) scalar
  | array items ih => exact written_array fun json hj => ih json hj (itemsIntegral_iff.1 h json hj)
  | object members ih => exact written_object fun m hm => ih m hm (membersIntegral_iff.1 h m hm)

/-- The compact text of a value in order, whose numbers are integers, stands for that value and no other. -/
theorem denotes_render_iff {json : Json} (integral : json.integral = true) (ordered : json.sorted = json)
    (value : Json) : Denotes json.render.toList value ↔ value = json := by
  have whole : Denotes json.render.toList json := by
    refine ⟨json, [], ?_, rfl, ordered⟩
    have read := (written integral).2 [] endsNumeral_nil
    rwa [List.append_nil, ← String.toList_ofList (l := json.write)] at read
  constructor
  · intro other
    exact other.unique whole
  · rintro rfl
    exact whole

end EntitlementClient.Json
