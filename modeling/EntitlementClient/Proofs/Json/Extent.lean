/-
What is passed over is a value by the grammar of the interchange format: a text that is skipped as far as a
place has been written up to there as a value is.
-/
import EntitlementClient.Proofs.Json.Source

namespace EntitlementClient.Json

open EntitlementClient.Text

/-! ## Numerals -/

theorem eq_append_of_readDigits {atEnd : Cause} {s digits rest : List Char}
    (h : readDigits atEnd s = .ok (digits, rest)) : s = digits ++ rest ∧ IsDigits digits := by
  unfold readDigits at h
  split at h
  · cases h
  · next c s =>
    split at h
    · next digit =>
      cases h
      refine ⟨(List.takeWhile_append_dropWhile).symm, ?_, fun d hd => List.all_eq_true.1 List.all_takeWhile d hd⟩
      rw [List.takeWhile_cons_of_pos digit]
      exact List.cons_ne_nil _ _
    · cases h

theorem eq_append_of_readWhole {atEnd : Cause} {s whole rest : List Char} (h : readWhole atEnd s = .ok (whole, rest)) :
    s = whole ++ rest ∧ IsWhole whole := by
  unfold readWhole at h
  split at h
  · cases h
  · next c s =>
    split at h
    · next zero =>
      split at h
      · cases h
        exact ⟨rfl, .inl (by rw [zero])⟩
      · cases h
    · next notZero =>
      split at h
      · next digit =>
        cases h
        refine ⟨?_, .inr ⟨⟨List.cons_ne_nil _ _, ?_⟩, ?_⟩⟩
        · rw [List.cons_append, List.takeWhile_append_dropWhile]
        · intro d hd
          rcases List.mem_cons.1 hd with rfl | hd
          · exact digit
          · exact List.all_eq_true.1 List.all_takeWhile d hd
        · rintro ⟨⟩
          exact notZero rfl
      · cases h

theorem exists_of_readFraction {atEnd : Cause} {s rest : List Char} {digits : Option (List Char)}
    (h : readFraction atEnd s = .ok (digits, rest)) : ∃ fraction, s = fraction ++ rest ∧ IsFraction fraction := by
  unfold readFraction at h
  split at h
  · next s =>
    obtain ⟨p, read, pair⟩ := exists_of_bind_eq_ok h
    cases pair
    obtain ⟨eq, isDigits⟩ := eq_append_of_readDigits read
    exact ⟨'.' :: p.1, by rw [eq]; rfl, .inr ⟨p.1, rfl, isDigits⟩⟩
  · cases h
    exact ⟨[], rfl, .inl rfl⟩

theorem exists_of_takeSign {s rest : List Char} {negative : Bool} (h : takeSign s = (negative, rest)) :
    ∃ sign, s = sign ++ rest ∧ (sign = [] ∨ sign = ['+'] ∨ sign = ['-']) := by
  unfold takeSign at h
  split at h <;> cases h
  · exact ⟨['-'], rfl, .inr (.inr rfl)⟩
  · exact ⟨['+'], rfl, .inr (.inl rfl)⟩
  · exact ⟨[], rfl, .inl rfl⟩

theorem exists_of_readExponent {atEnd : Cause} {s rest : List Char} {parts : Option (Bool × List Char)}
    (h : readExponent atEnd s = .ok (parts, rest)) : ∃ exponent, s = exponent ++ rest ∧ IsExponent exponent := by
  unfold readExponent at h
  split at h
  · cases h
    exact ⟨[], rfl, .inl rfl⟩
  · next c s =>
    split at h
    · next isE =>
      cases taken : takeSign s with
      | mk negative unsigned =>
        rw [taken] at h
        obtain ⟨p, read, pair⟩ := exists_of_bind_eq_ok h
        cases pair
        obtain ⟨rfl, isDigits⟩ := eq_append_of_readDigits read
        obtain ⟨sign, rfl, isSign⟩ := exists_of_takeSign taken
        exact ⟨c :: (sign ++ p.1), by simp, .inr ⟨c, sign, p.1, rfl, isE, isSign, isDigits⟩⟩
    · cases h
      exact ⟨[], rfl, .inl rfl⟩

theorem exists_of_takeMinus {s rest : List Char} {negative : Bool} (h : takeMinus s = (negative, rest)) :
    ∃ minus, s = minus ++ rest ∧ (minus = [] ∨ minus = ['-']) := by
  unfold takeMinus at h
  split at h <;> cases h
  · exact ⟨['-'], rfl, .inr rfl⟩
  · exact ⟨[], rfl, .inl rfl⟩

theorem exists_of_readNumeral {atEnd : Cause} {s rest : List Char} {n : Numeral}
    (h : readNumeral atEnd s = .ok (n, rest)) : ∃ used, s = used ++ rest ∧ IsNumeral used := by
  unfold readNumeral at h
  cases taken : takeMinus s with
  | mk negative unsigned =>
    rw [taken] at h
    obtain ⟨w, whole, h⟩ := exists_of_bind_eq_ok h
    obtain ⟨f, fraction, h⟩ := exists_of_bind_eq_ok h
    obtain ⟨e, exponent, h⟩ := exists_of_bind_eq_ok h
    cases h
    obtain ⟨minus, rfl, isMinus⟩ := exists_of_takeMinus taken
    obtain ⟨rfl, isWhole⟩ := eq_append_of_readWhole whole
    obtain ⟨fractionText, eqFraction, isFraction⟩ := exists_of_readFraction fraction
    obtain ⟨exponentText, eqExponent, isExponent⟩ := exists_of_readExponent exponent
    exact ⟨minus ++ (w.1 ++ (fractionText ++ exponentText)), by simp [eqFraction, eqExponent], minus, w.1, fractionText,
      exponentText, rfl, isMinus, isWhole, isFraction, isExponent⟩

/-! ## Strings -/

theorem mem_hexDigits {c : Char} (h : (Hex.value? c).isSome = true) : c ∈ hexDigits := by
  have digits : ∀ n < 128, (Hex.value? (Char.ofNat n)).isSome = true → Char.ofNat n ∈ hexDigits := by decide
  have small : c.toNat < 128 := by
    simp only [Hex.value?] at h
    grind
  have mem := digits c.toNat small
  rw [Char.ofNat_toNat] at mem
  exact mem h

theorem eq_append_of_readHex {s rest : List Char} {n : Nat} (h : readHex s = .ok (n, rest)) :
    ∃ a b c d, s = a :: b :: c :: d :: rest ∧ ∀ x ∈ [a, b, c, d], x ∈ hexDigits := by
  unfold readHex at h
  split at h
  · cases h
  split at h
  · next a b c d after _ =>
    split at h
    · next found =>
      cases h
      refine ⟨a, b, c, d, rfl, fun x hx => mem_hexDigits ?_⟩
      obtain ⟨va, ha, found⟩ := Option.bind_eq_some_iff.1 found
      obtain ⟨vb, hb, found⟩ := Option.bind_eq_some_iff.1 found
      obtain ⟨vc, hc, found⟩ := Option.bind_eq_some_iff.1 found
      obtain ⟨vd, hd, found⟩ := Option.bind_eq_some_iff.1 found
      simp only [List.mem_cons, List.not_mem_nil, or_false] at hx
      obtain rfl | rfl | rfl | rfl := hx
      · rw [ha]; rfl
      · rw [hb]; rfl
      · rw [hc]; rfl
      · rw [hd]; rfl
    · cases h
  · cases h

theorem mem_escapeLetters {c : Char} (h : (plainEscape? c).isSome = true) : c ∈ escapeLetters := by
  unfold plainEscape? at h
  split at h
  · next eq => rcases eq with rfl | rfl | rfl <;> decide
  split at h
  · next eq => rw [eq]; decide
  split at h
  · next eq => rw [eq]; decide
  split at h
  · next eq => rw [eq]; decide
  split at h
  · next eq => rw [eq]; decide
  split at h
  · next eq => rw [eq]; decide
  · cases h

/-- What an escape is made of that is passed over. -/
theorem isQuoted_of_skipEscape {s after chars : List Char} (h : skipEscape s = .ok (chars ++ after))
    (rest : IsQuoted chars) : ∃ escape, '\\' :: s = escape ++ after ∧ IsQuoted escape := by
  unfold skipEscape at h
  split at h
  · cases h
  · next c s =>
    split at h
    · next u =>
      obtain ⟨p, read, eq⟩ := exists_of_map_eq_ok h
      obtain ⟨a, b, c', d, rfl, hex⟩ := eq_append_of_readHex read
      exact ⟨'\\' :: 'u' :: a :: b :: c' :: d :: chars, by rw [u, eq]; rfl, .unicode hex rest⟩
    · split at h
      · next letter =>
        cases h
        exact ⟨'\\' :: c :: chars, rfl, .letter (mem_escapeLetters letter) rest⟩
      · cases h

theorem exists_of_skipString {s rest : List Char} (h : skipString s = .ok rest) :
    ∃ chars, s = chars ++ '"' :: rest ∧ IsQuoted chars := by
  fun_induction skipString s with
  | case1 => cases h
  | case2 s =>
    cases h
    exact ⟨[], rfl, .nil⟩
  | case3 => cases h
  | case4 s after escape _ ih =>
    obtain ⟨chars, rfl, quoted⟩ := ih h
    exact isQuoted_of_skipEscape escape quoted
  | case5 => cases h
  | case6 c s notQuote notBackslash notControl ih =>
    obtain ⟨chars, rfl, quoted⟩ := ih h
    exact ⟨c :: chars, rfl, .plain notQuote notBackslash notControl quoted⟩

/-! ## Scalars -/

theorem eq_append_of_readLiteral {letters s rest : List Char} (h : readLiteral letters s = .ok rest) :
    s = letters ++ rest := by
  induction letters generalizing s with
  | nil =>
    rw [readLiteral] at h
    cases h
    rfl
  | cons letter letters ih =>
    cases s with
    | nil => cases h
    | cons c s =>
      rw [readLiteral] at h
      split at h
      · next eq => rw [eq, ih h]; rfl
      · cases h

theorem exists_of_skipScalar {s rest : List Char} (h : skipScalar s = .ok rest) :
    ∃ chars, s = chars ++ rest ∧ IsScalar chars := by
  unfold skipScalar at h
  split at h
  · cases h
  next c s =>
  split at h
  · next eq => exact ⟨_, by rw [eq, eq_append_of_readLiteral h]; rfl, .nullLiteral⟩
  split at h
  · next eq => exact ⟨_, by rw [eq, eq_append_of_readLiteral h]; rfl, .trueLiteral⟩
  split at h
  · next eq => exact ⟨_, by rw [eq, eq_append_of_readLiteral h]; rfl, .falseLiteral⟩
  split at h
  · unfold skipNumber at h
    obtain ⟨p, read, pair⟩ := exists_of_bind_eq_ok h
    cases pair
    obtain ⟨used, eq, isNumeral⟩ := exists_of_readNumeral read
    exact ⟨used, eq, .number isNumeral⟩
  split at h
  · next quote =>
    obtain ⟨chars, rfl, quoted⟩ := exists_of_skipString h
    exact ⟨'"' :: (chars ++ ['"']), by rw [quote]; simp, .string quoted⟩
  · cases h

/-! ## Brackets -/

theorem exists_blanks (s : List Char) : ∃ blanks : Blanks, s = blanks.chars ++ skipSpace s :=
  ⟨⟨s.takeWhile isSpace, List.all_eq_true.1 List.all_takeWhile⟩, List.takeWhile_append_dropWhile.symm⟩

namespace Source

/-- The value with other white space around it. -/
def padded (pad : Pad) : Source → Source
  | scalar _ chars h => scalar pad chars h
  | array _ inside items => array pad inside items
  | object _ inside members => object pad inside members

@[simp] theorem pad_padded (pad : Pad) (x : Source) : (x.padded pad).pad = pad := by
  cases x <;> rfl

@[simp] theorem bare_padded (pad : Pad) (x : Source) : (x.padded pad).bare = x.bare := by
  cases x <;> rfl

theorem itemsText_padded_append (first : Bool) (pad : Pad) (x : Source) (items : List Source) (tail : List Char) :
    itemsText first (x.padded pad :: items) ++ tail =
      lead first (pad.before.chars ++ (x.bare ++ (pad.after.chars ++ (itemsText false items ++ tail)))) := by
  rw [itemsText_cons_append, pad_padded, bare_padded]

theorem membersText_padded_append (first : Bool) (key : Key) (pad : Pad) (x : Source) (members : List (Key × Source))
    (tail : List Char) :
    membersText first ((key, x.padded pad) :: members) ++ tail =
      lead first (key.pad.before.chars ++ '"' :: (key.chars ++ '"' :: (key.pad.after.chars ++ ':' ::
        (pad.before.chars ++ (x.bare ++ (pad.after.chars ++ (membersText false members ++ tail))))))) := by
  rw [membersText_cons_append, pad_padded, bare_padded]

end Source

/-- Whether a text from which a value has been passed over begins with that value. -/
def Begins (s : List Char) : Prop :=
  ∀ outer rest, skipValue outer s = .ok rest →
    ∃ (before : Blanks) (x : Source) (mid : List Char), s = before.chars ++ (x.bare ++ mid) ∧
      skipAfter outer mid = .ok rest

theorem skipAfter_cons_eq_ok {bracket : Bracket} {outer : List Bracket} {s rest : List Char}
    (h : skipAfter (bracket :: outer) s = .ok rest) :
    ∃ (before : Blanks) (t : List Char), (s = before.chars ++ ',' :: t ∧ skipItem bracket outer t = .ok rest) ∨
      s = before.chars ++ bracket.close :: t ∧ skipAfter outer t = .ok rest := by
  obtain ⟨before, split⟩ := exists_blanks s
  rw [skipAfter] at h
  split at h
  · cases h
  next c t eq =>
  rw [eq] at split
  split at h
  · next comma => exact ⟨before, t, .inl ⟨by rw [split, comma], h⟩⟩
  split at h
  · next close => exact ⟨before, t, .inr ⟨by rw [split, close], h⟩⟩
  · cases h

theorem exists_of_readColon {s rest : List Char} (h : readColon s = .ok rest) :
    ∃ before : Blanks, s = before.chars ++ ':' :: rest := by
  obtain ⟨before, split⟩ := exists_blanks s
  unfold readColon at h
  split at h
  · cases h
  next c t eq =>
  rw [eq] at split
  split at h
  · next colon =>
    cases h
    exact ⟨before, by rw [split, colon]⟩
  · cases h

/-- A member that has been passed over begins with its name. -/
theorem exists_of_skipItem_curly {outer : List Bracket} {s rest : List Char} (h : skipItem .curly outer s = .ok rest) :
    ∃ (key : Key) (start : List Char),
      s = key.pad.before.chars ++ '"' :: (key.chars ++ '"' :: (key.pad.after.chars ++ ':' :: start)) ∧
        skipValue (.curly :: outer) start = .ok rest := by
  rw [skipItem] at h
  split at h
  · cases h
  next start name =>
  obtain ⟨before, split⟩ := exists_blanks s
  unfold skipName at name
  split at name
  · cases name
  next c t eq =>
  rw [eq] at split
  split at name
  · next quote =>
    obtain ⟨afterName, string, colon⟩ := exists_of_bind_eq_ok name
    obtain ⟨chars, rfl, quoted⟩ := exists_of_skipString string
    obtain ⟨after, rfl⟩ := exists_of_readColon colon
    exact ⟨⟨⟨before, after⟩, chars, quoted⟩, start, by rw [split, quote], h⟩
  · cases name

section Brackets

variable {bound : Nat} (value : ∀ t, t.length < bound → Begins t)
include value

/-- What has been passed over after an item of a list is the rest of the items. -/
theorem exists_items {outer : List Bracket} {s rest : List Char} (le : s.length ≤ bound)
    (h : skipAfter (.square :: outer) s = .ok rest) :
    ∃ (before : Blanks) (items : List Source) (mid : List Char),
      s = before.chars ++ (Source.itemsText false items ++ ']' :: mid) ∧ skipAfter outer mid = .ok rest := by
  induction length : s.length using Nat.strongRecOn generalizing s with
  | ind n ih =>
    obtain ⟨before, t, ⟨rfl, item⟩ | ⟨rfl, closed⟩⟩ := skipAfter_cons_eq_ok h
    · simp only [List.length_append, List.length_cons] at length le
      rw [skipItem_square] at item
      obtain ⟨space, x, mid, rfl, more⟩ := value t (by omega) _ _ item
      simp only [List.length_append] at length le
      obtain ⟨after, items, mid, rfl, done⟩ := ih mid.length (by omega) (by omega) more rfl
      refine ⟨before, x.padded ⟨space, after⟩ :: items, mid, ?_, done⟩
      rw [Source.itemsText_padded_append]
      rfl
    · exact ⟨before, [], t, rfl, closed⟩

/-- What has been passed over after the opening bracket of a list are its items. -/
theorem exists_items_first {outer : List Bracket} {s rest : List Char} (lt : s.length < bound)
    (h : skipFirst .square outer s = .ok rest) :
    ∃ (inside : Blanks) (items : List Source) (mid : List Char),
      s = inside.chars ++ (Source.itemsText true items ++ ']' :: mid) ∧ skipAfter outer mid = .ok rest := by
  obtain ⟨inside, split⟩ := exists_blanks s
  rw [skipFirst] at h
  split at h
  · cases h
  next c t eq =>
  rw [eq] at split
  subst split
  simp only [List.length_append, List.length_cons] at lt
  split at h
  · next close => exact ⟨inside, [], t, by rw [close]; rfl, h⟩
  · rw [skipItem_square] at h
    obtain ⟨space, x, mid, begins, more⟩ := value (c :: t) (by simp only [List.length_cons]; omega) _ _ h
    have length := congrArg List.length begins
    simp only [List.length_append, List.length_cons] at length
    obtain ⟨after, items, mid, rfl, done⟩ := exists_items value (by omega) more
    refine ⟨inside, x.padded ⟨space, after⟩ :: items, mid, ?_, done⟩
    rw [begins, Source.itemsText_padded_append]
    rfl

/-- What has been passed over after a member of an object is the rest of the members. -/
theorem exists_members {outer : List Bracket} {s rest : List Char} (le : s.length ≤ bound)
    (h : skipAfter (.curly :: outer) s = .ok rest) :
    ∃ (before : Blanks) (members : List (Key × Source)) (mid : List Char),
      s = before.chars ++ (Source.membersText false members ++ '}' :: mid) ∧ skipAfter outer mid = .ok rest := by
  induction length : s.length using Nat.strongRecOn generalizing s with
  | ind n ih =>
    obtain ⟨before, t, ⟨rfl, item⟩ | ⟨rfl, closed⟩⟩ := skipAfter_cons_eq_ok h
    · obtain ⟨key, start, rfl, member⟩ := exists_of_skipItem_curly item
      simp only [List.length_append, List.length_cons] at length le
      obtain ⟨space, x, mid, rfl, more⟩ := value start (by omega) _ _ member
      simp only [List.length_append] at length le
      obtain ⟨after, members, mid, rfl, done⟩ := ih mid.length (by omega) (by omega) more rfl
      refine ⟨before, (key, x.padded ⟨space, after⟩) :: members, mid, ?_, done⟩
      rw [Source.membersText_padded_append]
      rfl
    · exact ⟨before, [], t, rfl, closed⟩

/-- What has been passed over after the opening brace of an object are its members. -/
theorem exists_members_first {outer : List Bracket} {s rest : List Char} (lt : s.length < bound)
    (h : skipFirst .curly outer s = .ok rest) :
    ∃ (inside : Blanks) (members : List (Key × Source)) (mid : List Char),
      s = inside.chars ++ (Source.membersText true members ++ '}' :: mid) ∧ skipAfter outer mid = .ok rest := by
  obtain ⟨inside, split⟩ := exists_blanks s
  rw [skipFirst] at h
  split at h
  · cases h
  next c t eq =>
  rw [eq] at split
  subst split
  simp only [List.length_append, List.length_cons] at lt
  split at h
  · next close => exact ⟨inside, [], t, by rw [close]; rfl, h⟩
  · obtain ⟨key, start, begins, h⟩ := exists_of_skipItem_curly h
    have length := congrArg List.length begins
    simp only [List.length_append, List.length_cons] at length
    obtain ⟨space, x, mid, rfl, more⟩ := value start (by omega) _ _ h
    simp only [List.length_append] at length
    obtain ⟨after, members, mid, rfl, done⟩ := exists_members value (by omega) more
    refine ⟨inside, (key, x.padded ⟨space, after⟩) :: members, mid, ?_, done⟩
    rw [begins, Source.membersText_padded_append]
    rfl

end Brackets

/-! ## Values -/

/-- Every text from which a value is passed over begins with a value by the grammar. -/
theorem begins (s : List Char) : Begins s := by
  -- on the length of the text: what stands in a bracket is shorter, and so is what follows an item
  induction length : s.length using Nat.strongRecOn generalizing s with
  | ind n ih =>
    intro outer rest h
    obtain ⟨before, split⟩ := exists_blanks s
    have value : ∀ t, t.length < n → Begins t := fun t ht => ih t.length ht t rfl
    rw [skipValue] at h
    split at h
    · cases h
    next c t eq =>
    rw [eq] at split
    subst split
    simp only [List.length_append, List.length_cons] at length
    split at h
    · next square =>
      obtain ⟨inside, items, mid, rfl, done⟩ := exists_items_first value (by omega) h
      refine ⟨before, .array ⟨.none, .none⟩ inside items, mid, ?_, done⟩
      rw [Source.bare_array_append, square]
    split at h
    · next curly =>
      obtain ⟨inside, members, mid, rfl, done⟩ := exists_members_first value (by omega) h
      refine ⟨before, .object ⟨.none, .none⟩ inside members, mid, ?_, done⟩
      rw [Source.bare_object_append, curly]
    split at h
    · cases h
    · next after scalar =>
      obtain ⟨chars, split, isScalar⟩ := exists_of_skipScalar scalar
      exact ⟨before, .scalar ⟨.none, .none⟩ chars isScalar, after, by rw [split]; rfl, h⟩

/-- What is passed over, up to white space at its end, is what the grammar writes. -/
theorem skip_iff_exists_source {s : List Char} :
    (∃ rest, skip s = .ok rest ∧ skipSpace rest = []) ↔ ∃ x : Source, x.text = s := by
  constructor
  · rintro ⟨rest, h, blank⟩
    obtain ⟨before, x, mid, rfl, done⟩ := begins s [] rest h
    rw [skipAfter] at done
    cases done
    obtain ⟨after, split⟩ := exists_blanks rest
    rw [blank, List.append_nil] at split
    refine ⟨x.padded ⟨before, after⟩, ?_⟩
    rw [Source.text, Source.pad_padded, Source.bare_padded, Pad.around, split, List.append_assoc]
  · rintro ⟨x, rfl⟩
    refine ⟨x.pad.after.chars, ?_, skipSpace_blanks_nil x.pad.after⟩
    rw [Source.text, Pad.around, List.append_assoc]
    exact x.skip x.pad.before x.pad.after.endsNumeral

end EntitlementClient.Json
