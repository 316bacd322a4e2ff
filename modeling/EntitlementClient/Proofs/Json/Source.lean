/-
JSON texts as they are written: the grammar of the interchange format, with blanks and with any spelling of
strings and numbers, told without the readers. What is written by it may be passed over, wherever it stands.
-/
import EntitlementClient.Proofs.Json.Writer

namespace EntitlementClient.Json

open EntitlementClient.Text

/-! ## Numerals -/

/-- Whether a text is one digit or more. -/
def IsDigits (s : List Char) : Prop :=
  s ≠ [] ∧ ∀ c ∈ s, c.isDigit = true

/-- Whether a text is a zero alone, or digits that do not start with zero. -/
def IsWhole (s : List Char) : Prop :=
  s = ['0'] ∨ IsDigits s ∧ s.head? ≠ some '0'

/-- Whether a text is nothing, or a point and digits. -/
def IsFraction (s : List Char) : Prop :=
  s = [] ∨ ∃ digits, s = '.' :: digits ∧ IsDigits digits

/-- Whether a text is nothing, or an `e` in either letter case, a sign or none, and digits. -/
def IsExponent (s : List Char) : Prop :=
  s = [] ∨ ∃ e sign digits, s = e :: (sign ++ digits) ∧ (e = 'e' ∨ e = 'E') ∧
    (sign = [] ∨ sign = ['+'] ∨ sign = ['-']) ∧ IsDigits digits

/-- Whether a text is a numeral. -/
def IsNumeral (s : List Char) : Prop :=
  ∃ minus whole fraction exponent, s = minus ++ (whole ++ (fraction ++ exponent)) ∧ (minus = [] ∨ minus = ['-']) ∧
    IsWhole whole ∧ IsFraction fraction ∧ IsExponent exponent

/-- Whether a text does not begin with a digit. -/
def NoDigit (s : List Char) : Prop :=
  ∀ c ∈ s.head?, c.isDigit = false

theorem EndsNumeral.noDigit {s : List Char} (h : EndsNumeral s) : NoDigit s :=
  fun c hc => (h c hc).1

theorem readDigits_append (atEnd : Cause) {digits tail : List Char} (h : IsDigits digits) (stop : NoDigit tail) :
    readDigits atEnd (digits ++ tail) = .ok (digits, tail) := by
  obtain ⟨nonempty, all⟩ := h
  cases digits with
  | nil => exact absurd rfl nonempty
  | cons c digits =>
    rw [List.cons_append, readDigits, if_pos (all c List.mem_cons_self), ← List.cons_append,
      takeWhile_isDigit_append all stop, dropWhile_isDigit_append all stop]

theorem readWhole_append (atEnd : Cause) {whole tail : List Char} (h : IsWhole whole) (stop : NoDigit tail) :
    readWhole atEnd (whole ++ tail) = .ok (whole, tail) := by
  obtain rfl | ⟨⟨nonempty, all⟩, notZero⟩ := h
  · have none : ([] ++ tail).takeWhile Char.isDigit = [] := takeWhile_isDigit_append (by simp) stop
    rw [List.nil_append] at none
    rw [List.singleton_append, readWhole, if_pos rfl, none]
    rfl
  · cases whole with
    | nil => exact absurd rfl nonempty
    | cons c digits =>
      have ne : c ≠ '0' := fun eq => notZero (by rw [eq]; rfl)
      have rest : ∀ d ∈ digits, d.isDigit = true := fun d hd => all d (List.mem_cons_of_mem _ hd)
      rw [List.cons_append, readWhole, if_neg ne, if_pos (all c List.mem_cons_self),
        takeWhile_isDigit_append rest stop, dropWhile_isDigit_append rest stop]

/-- A fraction is read up to what cannot belong to it. -/
theorem exists_readFraction {fraction : List Char} (h : IsFraction fraction) :
    ∃ digits, ∀ atEnd tail, NoDigit tail → (∀ c ∈ tail.head?, c ≠ '.') →
      readFraction atEnd (fraction ++ tail) = .ok (digits, tail) := by
  obtain rfl | ⟨digits, rfl, isDigits⟩ := h
  · refine ⟨none, fun atEnd tail _ noPoint => ?_⟩
    unfold readFraction
    rw [List.nil_append]
    split
    · exact absurd rfl (noPoint '.' rfl)
    · rfl
  · refine ⟨some digits, fun atEnd tail stop _ => ?_⟩
    rw [List.cons_append, readFraction, readDigits_append atEnd isDigits stop]
    rfl

theorem exists_readExponent {exponent : List Char} (h : IsExponent exponent) :
    ∃ parts, ∀ atEnd tail, EndsNumeral tail → readExponent atEnd (exponent ++ tail) = .ok (parts, tail) := by
  obtain rfl | ⟨e, sign, digits, rfl, isE, isSign, isDigits⟩ := h
  · exact ⟨none, fun atEnd tail stop => readExponent_of_endsNumeral atEnd stop⟩
  · have signed : ∃ minus, ∀ tail, takeSign (sign ++ (digits ++ tail)) = (minus, digits ++ tail) := by
      obtain rfl | rfl | rfl := isSign
      · refine ⟨false, fun tail => ?_⟩
        obtain ⟨nonempty, all⟩ := isDigits
        cases digits with
        | nil => exact absurd rfl nonempty
        | cons c digits =>
          have digit := all c List.mem_cons_self
          unfold takeSign
          split
          · next eq => cases eq; exact absurd digit (by decide)
          · next eq => cases eq; exact absurd digit (by decide)
          · rfl
      · exact ⟨false, fun tail => rfl⟩
      · exact ⟨true, fun tail => rfl⟩
    obtain ⟨minus, signed⟩ := signed
    refine ⟨some (minus, digits), fun atEnd tail stop => ?_⟩
    rw [List.cons_append, List.append_assoc, readExponent, if_pos isE]
    simp only [signed, readDigits_append atEnd isDigits stop.noDigit, bind, Except.bind]
    rfl

/-- Behind the digits before the exponent neither a digit nor a point stands. -/
theorem IsExponent.stop {exponent tail : List Char} (h : IsExponent exponent) (ends : EndsNumeral tail) :
    NoDigit (exponent ++ tail) ∧ ∀ c ∈ (exponent ++ tail).head?, c ≠ '.' := by
  obtain rfl | ⟨e, sign, digits, rfl, isE, -⟩ := h
  · exact ⟨ends.noDigit, fun c hc => (ends c hc).2.1⟩
  · constructor
    · rintro c ⟨⟩
      obtain rfl | rfl := isE <;> rfl
    · rintro c ⟨⟩
      obtain rfl | rfl := isE <;> decide

theorem IsFraction.stop {fraction tail : List Char} (h : IsFraction fraction) (stop : NoDigit tail) :
    NoDigit (fraction ++ tail) := by
  obtain rfl | ⟨digits, rfl, -⟩ := h
  · exact stop
  · rintro c ⟨⟩
    rfl

theorem IsWhole.exists_eq_cons {whole : List Char} (h : IsWhole whole) :
    ∃ c rest, whole = c :: rest ∧ c.isDigit = true := by
  obtain rfl | ⟨⟨nonempty, all⟩, -⟩ := h
  · exact ⟨'0', [], rfl, rfl⟩
  · cases whole with
    | nil => exact absurd rfl nonempty
    | cons c rest => exact ⟨c, rest, rfl, all c List.mem_cons_self⟩

theorem exists_takeMinus {minus : List Char} (h : minus = [] ∨ minus = ['-']) :
    ∃ negative, ∀ whole tail, IsWhole whole → takeMinus (minus ++ (whole ++ tail)) = (negative, whole ++ tail) := by
  obtain rfl | rfl := h
  · refine ⟨false, fun whole tail isWhole => ?_⟩
    obtain ⟨c, rest, rfl, digit⟩ := isWhole.exists_eq_cons
    unfold takeMinus
    split
    · next eq => cases eq; exact absurd digit (by decide)
    · rfl
  · exact ⟨true, fun _ _ _ => rfl⟩

/-- A numeral is read to its end, whatever follows that does not belong to it. -/
theorem IsNumeral.exists_read {s : List Char} (h : IsNumeral s) :
    ∃ n, ∀ atEnd tail, EndsNumeral tail → readNumeral atEnd (s ++ tail) = .ok (n, tail) := by
  obtain ⟨minus, whole, fraction, exponent, rfl, isMinus, isWhole, isFraction, isExponent⟩ := h
  obtain ⟨negative, takeMinus⟩ := exists_takeMinus isMinus
  obtain ⟨digits, readFraction⟩ := exists_readFraction isFraction
  obtain ⟨parts, readExponent⟩ := exists_readExponent isExponent
  refine ⟨⟨negative, whole, digits, parts⟩, fun atEnd tail ends => ?_⟩
  obtain ⟨noDigit, noPoint⟩ := isExponent.stop ends
  unfold readNumeral
  simp only [List.append_assoc, takeMinus _ _ isWhole, readWhole_append atEnd isWhole (isFraction.stop noDigit),
    readFraction atEnd _ noDigit noPoint, readExponent atEnd tail ends, bind, Except.bind]
  rfl

/-! ## Strings -/

/-- The digits of numbers to the base sixteen. -/
def hexDigits : List Char :=
  "0123456789abcdefABCDEF".toList

/-- The letters of an escape that is one letter long. -/
def escapeLetters : List Char :=
  "\"\\/bfnrt".toList

/-- Whether a text may stand between the quotes of a string: characters that are neither quotes nor backslashes
nor control characters, and escapes. Surrogates need not be paired. -/
inductive IsQuoted : List Char → Prop
  | nil : IsQuoted []
  | plain {c : Char} {s : List Char} (notQuote : c ≠ '"') (notBackslash : c ≠ '\\') (notControl : ¬c.toNat < 0x20)
      (rest : IsQuoted s) : IsQuoted (c :: s)
  | letter {c : Char} {s : List Char} (mem : c ∈ escapeLetters) (rest : IsQuoted s) : IsQuoted ('\\' :: c :: s)
  | unicode {a b c d : Char} {s : List Char} (mem : ∀ x ∈ [a, b, c, d], x ∈ hexDigits) (rest : IsQuoted s) :
      IsQuoted ('\\' :: 'u' :: a :: b :: c :: d :: s)

/-- Whether a character stands for itself between quotes. -/
def isUnescaped (c : Char) : Bool :=
  c != '"' && c != '\\' && !decide (c.toNat < 0x20)

theorem isUnescaped_iff {c : Char} : isUnescaped c = true ↔ c ≠ '"' ∧ c ≠ '\\' ∧ ¬c.toNat < 0x20 := by
  simp [isUnescaped, and_assoc]

theorem IsQuoted.of_unescaped {s : List Char} (h : s.all isUnescaped = true) : IsQuoted s := by
  induction s with
  | nil => exact .nil
  | cons c s ih =>
    obtain ⟨first, rest⟩ := Bool.and_eq_true_iff.1 h
    obtain ⟨notQuote, notBackslash, notControl⟩ := isUnescaped_iff.1 first
    exact .plain notQuote notBackslash notControl (ih rest)

theorem exists_plainEscape? : ∀ c ∈ escapeLetters, c ≠ 'u' ∧ ∃ e, plainEscape? c = some e := by
  intro c hc
  have letters : escapeLetters.all (fun c => c != 'u' && (plainEscape? c).isSome) = true := by decide
  obtain ⟨ne, found⟩ := Bool.and_eq_true_iff.1 (List.all_eq_true.1 letters c hc)
  exact ⟨bne_iff_ne.1 ne, Option.isSome_iff_exists.1 found⟩

theorem exists_hexValue? {a b c d : Char} (h : ∀ x ∈ [a, b, c, d], x ∈ hexDigits) :
    ∃ n, ∀ s, readHex (a :: b :: c :: d :: s) = .ok (n, s) := by
  have digits : hexDigits.all (fun x => (Hex.value? x).isSome) = true := by decide
  have digit (x : Char) (hx : x ∈ [a, b, c, d]) : ∃ v, Hex.value? x = some v :=
    Option.isSome_iff_exists.1 (List.all_eq_true.1 digits x (h x hx))
  obtain ⟨va, ha⟩ := digit a (by simp)
  obtain ⟨vb, hb⟩ := digit b (by simp)
  obtain ⟨vc, hc⟩ := digit c (by simp)
  obtain ⟨vd, hd⟩ := digit d (by simp)
  refine ⟨((va * 16 + vb) * 16 + vc) * 16 + vd, fun s => ?_⟩
  have long : ¬Utf8.length (List.take 4 (a :: b :: c :: d :: s)) < 4 := by
    have := a.utf8Size_pos
    have := b.utf8Size_pos
    have := c.utf8Size_pos
    have := d.utf8Size_pos
    simp only [List.take_succ_cons, List.take_zero, Utf8.length]
    omega
  rw [readHex, if_neg long]
  simp only [hexValue?, ha, hb, hc, hd]
  rfl

/-- A string is passed over to its closing quote. -/
theorem IsQuoted.skipString {chars : List Char} (h : IsQuoted chars) (tail : List Char) :
    skipString (chars ++ '"' :: tail) = .ok tail := by
  induction h with
  | nil =>
    rw [List.nil_append, Json.skipString]
    rfl
  | plain notQuote notBackslash notControl _ ih =>
    rw [List.cons_append, Json.skipString, if_neg notQuote, if_neg notBackslash, if_neg notControl, ih]
  | letter mem _ ih =>
    obtain ⟨ne, e, found⟩ := exists_plainEscape? _ mem
    rw [List.cons_append, List.cons_append, skipString_escape (by simp [skipEscape, ne, found]; rfl), ih]
  | unicode mem _ ih =>
    obtain ⟨n, read⟩ := exists_hexValue? mem
    rw [List.cons_append, List.cons_append, skipString_escape (by simp [skipEscape, read, Except.map]; rfl)]
    exact ih

/-! ## Scalars -/

/-- Whether a text is a value that is not bracketed. -/
inductive IsScalar : List Char → Prop
  | nullLiteral : IsScalar ['n', 'u', 'l', 'l']
  | trueLiteral : IsScalar ['t', 'r', 'u', 'e']
  | falseLiteral : IsScalar ['f', 'a', 'l', 's', 'e']
  | number {s : List Char} (h : IsNumeral s) : IsScalar s
  | string {chars : List Char} (h : IsQuoted chars) : IsScalar ('"' :: (chars ++ ['"']))

theorem IsNumeral.exists_eq_cons {s : List Char} (h : IsNumeral s) :
    ∃ c rest, s = c :: rest ∧ (c = '-' ∨ c.isDigit = true) := by
  obtain ⟨minus, whole, fraction, exponent, rfl, isMinus, isWhole, -, -⟩ := h
  obtain ⟨c, rest, rfl, digit⟩ := isWhole.exists_eq_cons
  obtain rfl | rfl := isMinus
  · exact ⟨c, _, rfl, .inr digit⟩
  · exact ⟨'-', _, rfl, .inl rfl⟩

/-- The first character of a numeral begins no other value. -/
theorem numeralStart_ne {c : Char} (h : c = '-' ∨ c.isDigit = true) :
    isSpace c = false ∧ c ≠ 'n' ∧ c ≠ 't' ∧ c ≠ 'f' ∧ c ≠ '[' ∧ c ≠ '{' ∧ c ≠ ']' := by
  obtain rfl | digit := h
  · decide
  · refine ⟨isSpace_of_isDigit digit, ?_, ?_, ?_, ?_, ?_, ?_⟩ <;> rintro rfl <;> exact absurd digit (by decide)

theorem IsScalar.startsValue {s : List Char} (h : IsScalar s) : StartsValue s := by
  cases h with
  | nullLiteral => exact ⟨_, _, rfl, by decide, by decide⟩
  | trueLiteral => exact ⟨_, _, rfl, by decide, by decide⟩
  | falseLiteral => exact ⟨_, _, rfl, by decide, by decide⟩
  | string => exact ⟨_, _, rfl, by decide, by decide⟩
  | number h =>
    obtain ⟨c, rest, eq, start⟩ := h.exists_eq_cons
    obtain ⟨space, -, -, -, -, -, ne⟩ := numeralStart_ne start
    exact ⟨c, rest, eq, space, ne⟩

/-- A scalar opens no bracket. -/
theorem IsScalar.opening? {s : List Char} (h : IsScalar s) (tail : List Char) : opening? (s ++ tail) = none := by
  cases h with
  | nullLiteral => rfl
  | trueLiteral => rfl
  | falseLiteral => rfl
  | string => rfl
  | number h =>
    obtain ⟨c, rest, rfl, start⟩ := h.exists_eq_cons
    obtain ⟨-, -, -, -, square, curly, -⟩ := numeralStart_ne start
    rw [List.cons_append, Json.opening?, if_neg square, if_neg curly]

theorem readLiteral_append (letters tail : List Char) : readLiteral letters (letters ++ tail) = .ok tail := by
  induction letters with
  | nil => cases tail <;> rfl
  | cons letter letters ih => rw [List.cons_append, readLiteral, if_pos rfl, ih]

/-- A scalar is passed over to its end. -/
theorem IsScalar.skipScalar {s tail : List Char} (h : IsScalar s) (ends : EndsNumeral tail) :
    skipScalar (s ++ tail) = .ok tail := by
  cases h with
  | nullLiteral => exact readLiteral_append ['u', 'l', 'l'] tail
  | trueLiteral => exact readLiteral_append ['r', 'u', 'e'] tail
  | falseLiteral => exact readLiteral_append ['a', 'l', 's', 'e'] tail
  | string h =>
    have skipped := h.skipString tail
    rw [List.cons_append, List.append_assoc]
    exact skipped
  | number h =>
    obtain ⟨n, read⟩ := h.exists_read
    have skipped : skipNumber (s ++ tail) = .ok tail := by
      unfold skipNumber
      rw [read _ tail ends]
      rfl
    obtain ⟨c, rest, rfl, start⟩ := h.exists_eq_cons
    obtain ⟨-, n', t, f, -, -, -⟩ := numeralStart_ne start
    rw [List.cons_append] at skipped ⊢
    rw [Json.skipScalar, if_neg n', if_neg t, if_neg f, if_pos start, skipped]

/-! ## Values -/

/-- White space as it may stand between the parts of a text. -/
structure Blanks where
  chars : List Char
  blank : ∀ c ∈ chars, isSpace c = true

/-- No white space. -/
def Blanks.none : Blanks :=
  ⟨[], fun _ h => absurd h List.not_mem_nil⟩

theorem skipSpace_blanks (blanks : Blanks) (s : List Char) : skipSpace (blanks.chars ++ s) = skipSpace s :=
  List.dropWhile_append_of_pos blanks.blank

theorem skipSpace_blanks_nil (blanks : Blanks) : skipSpace blanks.chars = [] := by
  rw [← List.append_nil blanks.chars, skipSpace_blanks]
  rfl

/-- White space belongs to no numeral. -/
theorem endsNumeral_blanks (blanks : Blanks) {s : List Char} (h : EndsNumeral s) : EndsNumeral (blanks.chars ++ s) := by
  obtain ⟨chars, blank⟩ := blanks
  cases chars with
  | nil => exact h
  | cons c chars =>
    rintro d ⟨⟩
    have space := blank c List.mem_cons_self
    rw [isSpace, decide_eq_true_iff] at space
    obtain rfl | rfl | rfl | rfl := space <;> decide

theorem Blanks.endsNumeral (blanks : Blanks) : EndsNumeral blanks.chars := by
  have ends := endsNumeral_blanks blanks endsNumeral_nil
  rwa [List.append_nil] at ends

/-- The white space around a part of a text. -/
structure Pad where
  before : Blanks
  after : Blanks

/-- A text with white space around it. -/
def Pad.around (pad : Pad) (s : List Char) : List Char :=
  pad.before.chars ++ s ++ pad.after.chars

/-- The name of a member as it is written: what stands between the quotes, and the white space around them. -/
structure Key where
  pad : Pad
  chars : List Char
  quoted : IsQuoted chars

/-- The text of a name. -/
def Key.text (key : Key) : List Char :=
  key.pad.around ('"' :: (key.chars ++ ['"']))

/-- The name that is written, if its surrogates are paired. -/
def Key.name? (key : Key) : Option String :=
  (readString (key.chars ++ ['"'])).toOption.map fun p => String.ofList p.1

/-- A name that is written without escapes and without white space around it. -/
def Key.plain (chars : List Char) (h : chars.all isUnescaped = true) : Key :=
  ⟨⟨.none, .none⟩, chars, .of_unescaped h⟩

@[simp] theorem Key.name?_plain (chars : List Char) (h : chars.all isUnescaped = true) :
    (Key.plain chars h).name? = some (String.ofList chars) := by
  have read : readString (chars ++ ['"']) = .ok (chars, []) := by
    induction chars with
    | nil => exact readString_quote []
    | cons c chars ih =>
      obtain ⟨first, rest⟩ := Bool.and_eq_true_iff.1 h
      obtain ⟨notQuote, notBackslash, notControl⟩ := isUnescaped_iff.1 first
      rw [List.cons_append, readString_plain notQuote notBackslash notControl, ih rest]
      rfl
  rw [Key.name?, Key.plain, read]
  rfl

/-- A value as it is written, with the white space around it and, for an empty bracket, inside it. -/
inductive Source
  | scalar (pad : Pad) (chars : List Char) (isScalar : IsScalar chars)
  | array (pad : Pad) (inside : Blanks) (items : List Source)
  | object (pad : Pad) (inside : Blanks) (members : List (Key × Source))

namespace Source

/-- A string that is written without escapes and without white space around it. -/
def plain (chars : List Char) (h : chars.all isUnescaped = true) : Source :=
  scalar ⟨.none, .none⟩ ('"' :: (chars ++ ['"'])) (.string (.of_unescaped h))

/-- The white space around a value. -/
def pad : Source → Pad
  | scalar pad _ _ => pad
  | array pad _ _ => pad
  | object pad _ _ => pad

mutual

/-- The text of a value without the white space around it. -/
def bare : Source → List Char
  | scalar _ chars _ => chars
  | array _ inside items => '[' :: inside.chars ++ itemsText true items ++ [']']
  | object _ inside members => '{' :: inside.chars ++ membersText true members ++ ['}']
termination_by structural x => x

/-- The text of the items of a list; the flag tells that there is no item before. -/
def itemsText (first : Bool) : List Source → List Char
  | [] => []
  | x :: items => lead first (x.pad.around x.bare) ++ itemsText false items
termination_by structural items => items

/-- The text of the members of an object; the flag tells that there is no member before. -/
def membersText (first : Bool) : List (Key × Source) → List Char
  | [] => []
  | (key, x) :: members => lead first (key.text ++ ':' :: x.pad.around x.bare) ++ membersText false members
termination_by structural members => members

end

/-- The text of a value. -/
def text (x : Source) : List Char :=
  x.pad.around x.bare

/-- What holds of a value as it is written when it holds of all that its brackets hold, holds of every one. -/
@[elab_as_elim]
theorem induction {P : Source → Prop} (scalar : ∀ pad chars h, P (.scalar pad chars h))
    (array : ∀ pad inside items, (∀ x ∈ items, P x) → P (.array pad inside items))
    (object : ∀ pad inside members, (∀ m ∈ members, P m.2) → P (.object pad inside members)) (x : Source) : P x :=
  @Source.rec P (fun items => ∀ x ∈ items, P x) (fun members => ∀ m ∈ members, P m.2) (fun m => P m.2)
    scalar array object
    (fun _ h => absurd h List.not_mem_nil) (fun _ _ head tail => List.forall_mem_cons.2 ⟨head, tail⟩)
    (fun _ h => absurd h List.not_mem_nil) (fun _ _ head tail => List.forall_mem_cons.2 ⟨head, tail⟩)
    (fun _ _ value => value) x

theorem startsValue_bare (x : Source) : StartsValue x.bare := by
  cases x with
  | scalar pad chars h => exact h.startsValue
  | array pad inside items => exact ⟨'[', _, rfl, by decide, by decide⟩
  | object pad inside members => exact ⟨'{', _, rfl, by decide, by decide⟩

/-! ## Parts of a text -/

theorem lead_append (first : Bool) (s t : List Char) : lead first s ++ t = lead first (s ++ t) := by
  cases first <;> rfl

theorem itemsText_cons_append (first : Bool) (x : Source) (items : List Source) (tail : List Char) :
    itemsText first (x :: items) ++ tail =
      lead first (x.pad.before.chars ++ (x.bare ++ (x.pad.after.chars ++ (itemsText false items ++ tail)))) := by
  simp only [itemsText, Pad.around, lead_append, List.append_assoc]

theorem membersText_cons_append (first : Bool) (key : Key) (x : Source) (members : List (Key × Source))
    (tail : List Char) :
    membersText first ((key, x) :: members) ++ tail =
      lead first (key.pad.before.chars ++ '"' :: (key.chars ++ '"' :: (key.pad.after.chars ++ ':' ::
        (x.pad.before.chars ++ (x.bare ++ (x.pad.after.chars ++ (membersText false members ++ tail))))))) := by
  simp only [membersText, Key.text, Pad.around, lead_append, List.append_assoc, List.cons_append, List.nil_append]

theorem bare_array_append (pad : Pad) (inside : Blanks) (items : List Source) (tail : List Char) :
    bare (.array pad inside items) ++ tail = '[' :: (inside.chars ++ (itemsText true items ++ ']' :: tail)) := by
  simp only [bare, List.append_assoc, List.cons_append, List.nil_append]

theorem bare_object_append (pad : Pad) (inside : Blanks) (members : List (Key × Source)) (tail : List Char) :
    bare (.object pad inside members) ++ tail = '{' :: (inside.chars ++ (membersText true members ++ '}' :: tail)) := by
  simp only [bare, List.append_assoc, List.cons_append, List.nil_append]

/-- What follows an item of a list belongs to no numeral. -/
theorem endsNumeral_itemsText (after : Blanks) (items : List Source) (tail : List Char) :
    EndsNumeral (after.chars ++ (itemsText false items ++ ']' :: tail)) := by
  refine endsNumeral_blanks after ?_
  cases items with
  | nil => exact endsNumeral_cons (by decide) tail
  | cons x items => rw [itemsText_cons_append]; exact endsNumeral_cons (by decide) _

theorem endsNumeral_membersText (after : Blanks) (members : List (Key × Source)) (tail : List Char) :
    EndsNumeral (after.chars ++ (membersText false members ++ '}' :: tail)) := by
  refine endsNumeral_blanks after ?_
  cases members with
  | nil => exact endsNumeral_cons (by decide) tail
  | cons m members => rw [membersText_cons_append]; exact endsNumeral_cons (by decide) _

theorem skipSpace_bare (before : Blanks) (x : Source) (tail : List Char) :
    skipSpace (before.chars ++ (x.bare ++ tail)) = x.bare ++ tail := by
  obtain ⟨c, rest, eq, space, -⟩ := (x.startsValue_bare).append tail
  rw [skipSpace_blanks, eq, skipSpace_eq_self space]

/-! ## Passing over -/

theorem skipValue_blanks (outer : List Bracket) (blanks : Blanks) (s : List Char) :
    skipValue outer (blanks.chars ++ s) = skipValue outer s := by
  rw [← skipValue_skipSpace, skipSpace_blanks, skipValue_skipSpace]

theorem skipName_key (key : Key) (tail : List Char) :
    skipName ('"' :: (key.chars ++ '"' :: (key.pad.after.chars ++ ':' :: tail))) = .ok tail := by
  unfold skipName
  rw [skipSpace_eq_self (by decide)]
  simp only [if_true, key.quoted.skipString, Except.bind]
  unfold readColon
  rw [skipSpace_blanks, skipSpace_eq_self (by decide)]
  rfl

theorem skipItem_curly_of_skipName {outer : List Bracket} {s start : List Char} (name : skipName s = .ok start) :
    skipItem .curly outer s = skipValue (.curly :: outer) start := by
  rw [skipItem]
  split <;> simp_all

/-- White space before the name of a member does not matter. -/
theorem skipItem_key (outer : List Bracket) (before : Blanks) (key : Key) (tail : List Char) :
    skipItem .curly outer (before.chars ++ '"' :: (key.chars ++ '"' :: (key.pad.after.chars ++ ':' :: tail))) =
      skipValue (.curly :: outer) tail := by
  refine skipItem_curly_of_skipName ?_
  unfold skipName
  rw [skipSpace_blanks]
  exact skipName_key key tail

/-- Whether a value is passed over to its end, whatever stands around it. -/
def Skipped (x : Source) : Prop :=
  ∀ outer tail, EndsNumeral tail → skipValue outer (x.bare ++ tail) = skipAfter outer tail

theorem skipAfter_items {items : List Source} (h : ∀ x ∈ items, x.Skipped) (outer : List Bracket) (before : Blanks)
    (tail : List Char) :
    skipAfter (.square :: outer) (before.chars ++ (itemsText false items ++ ']' :: tail)) = skipAfter outer tail := by
  induction items generalizing before with
  | nil => exact skipAfter_close ((skipSpace_blanks _ _).trans (skipSpace_eq_self (by decide) _))
  | cons x items ih =>
    obtain ⟨first, rest⟩ := List.forall_mem_cons.1 h
    rw [itemsText_cons_append]
    refine (skipAfter_comma ((skipSpace_blanks _ _).trans (skipSpace_eq_self (by decide) _))).trans ?_
    rw [skipItem_square, skipValue_blanks, first _ _ (endsNumeral_itemsText _ _ _), ih rest]

theorem skipFirst_items {items : List Source} (h : ∀ x ∈ items, x.Skipped) (outer : List Bracket) (inside : Blanks)
    (tail : List Char) :
    skipFirst .square outer (inside.chars ++ (itemsText true items ++ ']' :: tail)) = skipAfter outer tail := by
  cases items with
  | nil => exact skipFirst_close ((skipSpace_blanks _ _).trans (skipSpace_eq_self (by decide) _))
  | cons x items =>
    obtain ⟨first, rest⟩ := List.forall_mem_cons.1 h
    rw [itemsText_cons_append]
    obtain ⟨c, s, eq, -, ne⟩ := x.startsValue_bare.append (x.pad.after.chars ++ (itemsText false items ++ ']' :: tail))
    have ne : c ≠ Bracket.square.close := ne
    have space := (skipSpace_blanks inside _).trans ((skipSpace_bare x.pad.before x _).trans eq)
    rw [lead, if_pos rfl, skipFirst_item space ne, ← eq, skipItem_square, first _ _ (endsNumeral_itemsText _ _ _),
      skipAfter_items rest]

theorem skipAfter_members {members : List (Key × Source)} (h : ∀ m ∈ members, m.2.Skipped) (outer : List Bracket)
    (before : Blanks) (tail : List Char) :
    skipAfter (.curly :: outer) (before.chars ++ (membersText false members ++ '}' :: tail)) =
      skipAfter outer tail := by
  induction members generalizing before with
  | nil => exact skipAfter_close ((skipSpace_blanks _ _).trans (skipSpace_eq_self (by decide) _))
  | cons m members ih =>
    obtain ⟨first, rest⟩ := List.forall_mem_cons.1 h
    rw [membersText_cons_append]
    refine (skipAfter_comma ((skipSpace_blanks _ _).trans (skipSpace_eq_self (by decide) _))).trans ?_
    rw [skipItem_key, skipValue_blanks, first _ _ (endsNumeral_membersText _ _ _), ih rest]

theorem skipFirst_members {members : List (Key × Source)} (h : ∀ m ∈ members, m.2.Skipped) (outer : List Bracket)
    (inside : Blanks) (tail : List Char) :
    skipFirst .curly outer (inside.chars ++ (membersText true members ++ '}' :: tail)) = skipAfter outer tail := by
  cases members with
  | nil => exact skipFirst_close ((skipSpace_blanks _ _).trans (skipSpace_eq_self (by decide) _))
  | cons m members =>
    obtain ⟨first, rest⟩ := List.forall_mem_cons.1 h
    rw [membersText_cons_append]
    have space (s : List Char) := (skipSpace_blanks inside _).trans
      ((skipSpace_blanks m.1.pad.before _).trans (skipSpace_eq_self (c := '"') (by decide) s))
    rw [lead, if_pos rfl, skipFirst_item (space _) (by decide)]
    refine (skipItem_key outer .none m.1 _).trans ?_
    rw [skipValue_blanks, first _ _ (endsNumeral_membersText _ _ _), skipAfter_members rest]

theorem skipValue_scalar {chars : List Char} (h : IsScalar chars) (outer : List Bracket) {tail : List Char}
    (ends : EndsNumeral tail) : skipValue outer (chars ++ tail) = skipAfter outer tail := by
  have opens := h.opening? tail
  have skipped := h.skipScalar ends
  obtain ⟨c, s, eq, space, -⟩ := h.startsValue.append tail
  rw [eq] at opens skipped ⊢
  rw [skipValue]
  split
  · next none => rw [skipSpace_eq_self space] at none; cases none
  · next c' s' cons =>
    rw [skipSpace_eq_self space] at cons
    cases cons
    simp only [opening?] at opens
    split at opens
    · cases opens
    next notSquare =>
    split at opens
    · cases opens
    next notCurly =>
    rw [if_neg notSquare, if_neg notCurly]
    split <;> simp_all

/-- Every value that is written by the grammar is passed over to its end. -/
theorem skipped (x : Source) : x.Skipped := by
  induction x using induction with
  | scalar pad chars h => exact fun outer tail ends => skipValue_scalar h outer ends
  | array pad inside items ih =>
    intro outer tail _
    rw [bare_array_append]
    exact (skipValue_start .square (skipSpace_eq_self (by decide) _)).trans (skipFirst_items ih outer inside tail)
  | object pad inside members ih =>
    intro outer tail _
    rw [bare_object_append]
    exact (skipValue_start .curly (skipSpace_eq_self (by decide) _)).trans (skipFirst_members ih outer inside tail)

theorem skip (x : Source) (before : Blanks) {tail : List Char} (ends : EndsNumeral tail) :
    Json.skip (before.chars ++ (x.bare ++ tail)) = .ok tail := by
  rw [Json.skip, skipValue_blanks, x.skipped [] tail ends, skipAfter]

end Source

end EntitlementClient.Json
