/-
What is read of a value depends on the value alone, as it is written, and not on what stands around it. A list
is read item by item, and an object as its members, one after the other, lead from state to state.
-/
import EntitlementClient.Proofs.Json.Source
import EntitlementClient.Proofs.Schema.Reading

namespace EntitlementClient

open EntitlementClient.Json

namespace Json

/-! ## Strings and numbers -/

theorem readEscape_letter {c : Char} (mem : c ∈ escapeLetters) : ∃ e, ∀ s, readEscape (c :: s) = .ok (e, s) := by
  obtain ⟨ne, e, found⟩ := exists_plainEscape? c mem
  exact ⟨e, fun s => by simp [readEscape, ne, found]⟩

theorem readString_escape_error {s : List Char} {fault : Fault} (h : readEscape s = .error fault) :
    (readString ('\\' :: s)).toOption = none := by
  rw [readString, if_neg (by decide), if_pos rfl]
  split
  · rfl
  · next escape =>
    rw [h] at escape
    cases escape

/-- The first half of a surrogate pair is read only if the second half follows. -/
theorem readPair_quoted (first : Nat) {s : List Char} (h : IsQuoted s) :
    (∀ tail, ∃ fault, readPair first (s ++ '"' :: tail) = .error fault) ∨
      ∃ rest e, IsQuoted rest ∧ rest.length < s.length ∧
        ∀ tail, readPair first (s ++ '"' :: tail) = .ok (e, rest ++ '"' :: tail) := by
  cases h with
  | nil => exact .inl fun tail => ⟨_, rfl⟩
  | plain _ notBackslash _ _ =>
    refine .inl fun tail => ?_
    simp only [List.cons_append, readPair, readPairStart, if_neg notBackslash]
    exact ⟨_, rfl⟩
  | letter mem _ =>
    obtain ⟨ne, -⟩ := exists_plainEscape? _ mem
    refine .inl fun tail => ?_
    simp only [List.cons_append, readPair, readPairStart, if_true, if_neg ne]
    exact ⟨_, rfl⟩
  | @unicode a b c d s mem rest =>
    obtain ⟨n, read⟩ := exists_hexValue? mem
    have start (tail : List Char) :
        readPairStart ('\\' :: 'u' :: a :: b :: c :: d :: s ++ '"' :: tail) =
          .ok (a :: b :: c :: d :: (s ++ '"' :: tail)) :=
      rfl
    cases trailing : isTrailingSurrogate n with
    | false =>
      refine .inl fun tail => ?_
      simp only [readPair, start, read, trailing]
      exact ⟨_, rfl⟩
    | true =>
      refine .inr ⟨s, Char.ofNat (0x10000 + (first - 0xD800) * 1024 + (n - 0xDC00)), rest, ?_, fun tail => ?_⟩
      · simp only [List.length_cons]
        omega
      · simp only [readPair, start, read, trailing, if_true]

/-- An escape between quotes is refused whatever follows the closing quote, or leaves a shorter text between
quotes. -/
theorem readEscape_quoted {s : List Char} (h : IsQuoted ('\\' :: s)) :
    (∀ tail, ∃ fault, readEscape (s ++ '"' :: tail) = .error fault) ∨
      ∃ rest e, IsQuoted rest ∧ rest.length < s.length ∧
        ∀ tail, readEscape (s ++ '"' :: tail) = .ok (e, rest ++ '"' :: tail) := by
  cases h with
  | plain _ notBackslash _ _ => exact absurd rfl notBackslash
  | letter mem rest =>
    obtain ⟨e, read⟩ := readEscape_letter mem
    exact .inr ⟨_, e, rest, Nat.lt_succ_self _, fun tail => read _⟩
  | @unicode a b c d s mem rest =>
    obtain ⟨unit, read⟩ := exists_hexValue? mem
    have escape (tail : List Char) : readEscape ('u' :: a :: b :: c :: d :: s ++ '"' :: tail) =
        if isTrailingSurrogate unit then .error (.before .loneSurrogate (s ++ '"' :: tail))
        else if isLeadingSurrogate unit then readPair unit (s ++ '"' :: tail)
        else .ok (Char.ofNat unit, s ++ '"' :: tail) := by
      simp only [List.cons_append, readEscape, if_true, read]
    cases trailing : isTrailingSurrogate unit with
    | true =>
      simp only [trailing, if_true] at escape
      exact .inl fun tail => ⟨_, escape tail⟩
    | false =>
      cases leading : isLeadingSurrogate unit with
      | false =>
        simp only [trailing, leading, Bool.false_eq_true, if_false] at escape
        refine .inr ⟨s, Char.ofNat unit, rest, ?_, escape⟩
        simp only [List.length_cons]
        omega
      | true =>
        simp only [trailing, leading, Bool.false_eq_true, if_false, if_true] at escape
        obtain unpaired | ⟨others, e, quoted, less, paired⟩ := readPair_quoted unit rest
        · exact .inl fun tail => (unpaired tail).imp fun _ => (escape tail).trans
        · refine .inr ⟨others, e, quoted, ?_, fun tail => (escape tail).trans (paired tail)⟩
          simp only [List.length_cons]
          omega

/-- What is read of a string does not depend on what follows its closing quote. -/
theorem IsQuoted.exists_readString {chars : List Char} (h : IsQuoted chars) :
    ∃ r : Option (List Char), ∀ tail, (readString (chars ++ '"' :: tail)).toOption =
      r.map fun value => (value, tail) := by
  -- on the length: a pair of surrogates is read as one escape, which takes two of the grammar's
  induction length : chars.length using Nat.strongRecOn generalizing chars with
  | ind n ih =>
    have escaped {s : List Char} (h : IsQuoted ('\\' :: s)) (le : s.length ≤ n) : ∃ r : Option (List Char), ∀ tail,
        (readString ('\\' :: s ++ '"' :: tail)).toOption = r.map fun value => (value, tail) := by
      obtain refused | ⟨rest, e, quoted, less, escape⟩ := readEscape_quoted h
      · refine ⟨none, fun tail => ?_⟩
        obtain ⟨fault, eq⟩ := refused tail
        exact readString_escape_error eq
      · obtain ⟨r, read⟩ := ih rest.length (Nat.lt_of_lt_of_le less le) quoted rfl
        refine ⟨r.map (e :: ·), fun tail => ?_⟩
        rw [List.cons_append, readString_escape (escape tail), toOption_map, read]
        cases r <;> rfl
    cases h with
    | nil => exact ⟨some [], fun tail => by rw [List.nil_append, readString_quote]; rfl⟩
    | @plain c s notQuote notBackslash notControl rest =>
      obtain ⟨r, read⟩ := ih s.length (by simp only [← length, List.length_cons]; omega) rest rfl
      refine ⟨r.map (c :: ·), fun tail => ?_⟩
      rw [List.cons_append, readString_plain notQuote notBackslash notControl, toOption_map, read]
      cases r <;> rfl
    | letter mem rest => exact escaped (.letter mem rest) (length ▸ Nat.le_succ _)
    | unicode mem rest => exact escaped (.unicode mem rest) (length ▸ Nat.le_succ _)

theorem toOption_readLiteral (letters : List Char) (value : Scalar) (tail : List Char) :
    ((readLiteral letters (letters ++ tail)).map fun rest => (value, rest)).toOption = some (value, tail) := by
  rw [readLiteral_append]
  rfl

/-- What is read of a scalar does not depend on what follows it. -/
theorem IsScalar.exists_readScalar {chars : List Char} (h : IsScalar chars) :
    ∃ r : Option Scalar, ∀ tail, EndsNumeral tail →
      (readScalar (chars ++ tail)).toOption = r.map fun value => (value, tail) := by
  cases h with
  | nullLiteral => exact ⟨some .null, fun tail _ => toOption_readLiteral ['u', 'l', 'l'] .null tail⟩
  | trueLiteral => exact ⟨some (.bool true), fun tail _ => toOption_readLiteral ['r', 'u', 'e'] (.bool true) tail⟩
  | falseLiteral =>
    exact ⟨some (.bool false), fun tail _ => toOption_readLiteral ['a', 'l', 's', 'e'] (.bool false) tail⟩
  | number numeral =>
    obtain ⟨n, read⟩ := numeral.exists_read
    obtain ⟨c, rest, rfl, start⟩ := numeral.exists_eq_cons
    obtain ⟨-, n', t, f, -, -, -⟩ := numeralStart_ne start
    refine ⟨n.number.toOption.map .number, fun tail ends => ?_⟩
    have number := read .endInValue tail ends
    rw [List.cons_append] at number ⊢
    rw [readScalar, if_neg n', if_neg t, if_neg f, if_pos start, toOption_map, readNumber, number]
    cases value : n.number <;> simp [bind, Except.bind, value, Except.toOption, pure, Except.pure]
  | string quoted =>
    obtain ⟨r, read⟩ := quoted.exists_readString
    refine ⟨r.map fun chars => .text (String.ofList chars), fun tail _ => ?_⟩
    rw [List.cons_append, List.append_assoc]
    show ((readString (_ ++ '"' :: tail)).map _).toOption = _
    rw [toOption_map, read]
    cases r <;> rfl

/-! ## Readers -/

variable {α β σ : Type}

/-- Whether a reader reads of every value what `f` tells of it, whatever stands around the value. -/
def Reader.Means (reader : Reader α) (f : Source → Option α) : Prop :=
  ∀ (before : Blanks) (x : Source) (tail : List Char), EndsNumeral tail →
    (reader.run (before.chars ++ (x.bare ++ tail))).toOption = (f x).map fun a => (a, tail)

/-- What a reader reads of a value that stands alone. -/
def Reader.value? (reader : Reader α) (x : Source) : Option α :=
  (reader.run x.bare).toOption.map Prod.fst

/-- Whether a reader reads of every value what it reads when the value stands alone. -/
def Reader.Local (reader : Reader α) : Prop :=
  reader.Means reader.value?

theorem Reader.Means.value?_eq {reader : Reader α} {f : Source → Option α} (h : reader.Means f) (x : Source) :
    reader.value? x = f x := by
  have alone := h .none x [] endsNumeral_nil
  rw [List.append_nil] at alone
  rw [Reader.value?, show x.bare = Blanks.none.chars ++ x.bare from rfl, alone]
  cases f x <;> rfl

theorem Reader.Means.isLocal {reader : Reader α} {f : Source → Option α} (h : reader.Means f) : reader.Local := by
  intro before x tail ends
  rw [h.value?_eq]
  exact h before x tail ends

theorem Reader.Local.run_bare {reader : Reader α} (h : reader.Local) (x : Source) {tail : List Char}
    (ends : EndsNumeral tail) : (reader.run (x.bare ++ tail)).toOption = (reader.value? x).map fun a => (a, tail) :=
  h .none x tail ends

theorem Reader.value?_map (f : α → β) (reader : Reader α) (x : Source) :
    (reader.map f).value? x = (reader.value? x).map f := by
  rw [Reader.value?, Reader.value?, toOption_runMap]
  cases (reader.run x.bare).toOption <;> rfl

theorem Reader.Local.map {reader : Reader α} (h : reader.Local) (f : α → β) : (reader.map f).Local := by
  intro before x tail ends
  rw [toOption_runMap, h before x tail ends, Reader.value?_map]
  cases reader.value? x <;> rfl

namespace Source

/-- The scalar that a value is, if it can be read. -/
def scalar? : Source → Option Scalar
  | scalar _ chars _ => (readScalar chars).toOption.map Prod.fst
  | array _ _ _ => none
  | object _ _ _ => none

theorem toOption_readScalar (pad : Pad) {chars : List Char} (h : IsScalar chars) {tail : List Char}
    (ends : EndsNumeral tail) :
    (readScalar (chars ++ tail)).toOption = (scalar pad chars h).scalar?.map fun value => (value, tail) := by
  obtain ⟨r, read⟩ := h.exists_readScalar
  have alone := read [] endsNumeral_nil
  rw [List.append_nil] at alone
  rw [read tail ends, scalar?, alone]
  cases r <;> rfl

/-- What a value stands for where brackets are wanted, of which `d` more may be opened. -/
def ofBrackets (d : Nat) (square : List Source → Option α) (curly : List (Key × Source) → Option α) :
    Source → Option α
  | scalar _ _ _ => none
  | array _ _ items => if d = 0 then none else square items
  | object _ _ members => if d = 0 then none else curly members

end Source

theorem toOption_readPicked {expected : Expected} {pick : Scalar → Except Cause α} {s : List Char}
    (opens : opening? (skipSpace s) = none) :
    (readPicked expected pick s).toOption =
      (readScalar (skipSpace s)).toOption.bind fun p => (pick p.1).toOption.map fun a => (a, p.2) := by
  simp only [readPicked, opens]
  cases readScalar (skipSpace s) with
  | error fault => rfl
  | ok pair =>
    simp only [Except.toOption, Option.bind_some]
    cases pick pair.1 <;> rfl

theorem means_scalarReader (expected : Expected) (pick : Scalar → Except Cause α) :
    (scalarReader expected pick).Means fun x => x.scalar?.bind fun value => (pick value).toOption := by
  intro before x tail ends
  have space := Source.skipSpace_bare before x tail
  cases x with
  | scalar pad chars h =>
    have opens : opening? (skipSpace (before.chars ++ (chars ++ tail))) = none :=
      (congrArg opening? space).trans (h.opening? tail)
    refine (toOption_readPicked opens).trans ?_
    rw [show skipSpace (before.chars ++ (chars ++ tail)) = chars ++ tail from space,
      Source.toOption_readScalar pad h ends]
    show _ = ((Source.scalar pad chars h).scalar?.bind fun value => (pick value).toOption).map fun a => (a, tail)
    cases (Source.scalar pad chars h).scalar? <;> rfl
  | array pad inside items =>
    simp only [scalarReader, readPicked, space]
    rw [Source.bare_array_append]
    rfl
  | object pad inside members =>
    simp only [scalarReader, readPicked, space]
    rw [Source.bare_object_append]
    rfl

/-! ## Lists -/

theorem nextItem_blanks (first : Bool) (before : Blanks) (s : List Char) :
    nextItem first (before.chars ++ s) = nextItem first s := by
  unfold nextItem
  rw [skipSpace_blanks]

theorem nextItem_source (first : Bool) (before space : Blanks) (x : Source) (tail : List Char) :
    nextItem first (before.chars ++ lead first (space.chars ++ (x.bare ++ tail))) = .ok (.item (x.bare ++ tail)) := by
  rw [nextItem_blanks]
  have starts := x.startsValue_bare.append tail
  cases first with
  | true => exact (nextItem_blanks true space _).trans (nextItem_lead true starts)
  | false =>
    refine Eq.trans ?_ (nextItem_lead false starts)
    have comma (s : List Char) : skipSpace (',' :: s) = ',' :: s := skipSpace_eq_self (by decide) s
    simp only [nextItem, lead, Bool.false_eq_true, if_false, comma, skipSpace_blanks, if_true,
      if_neg (show ',' ≠ ']' by decide)]

theorem nextItem_closing (first : Bool) (before : Blanks) (tail : List Char) :
    nextItem first (before.chars ++ ']' :: tail) = .ok (.close tail) :=
  (nextItem_blanks first before _).trans (nextItem_bracket first tail)

/-- The items of a list are read one by one. -/
theorem toOption_readItems {item : Reader α} (h : item.Local) (items : List Source) (first : Bool) (before : Blanks)
    (tail : List Char) :
    (readItems item first (before.chars ++ (Source.itemsText first items ++ ']' :: tail))).toOption =
      (items.mapM item.value?).map fun values => (values, tail) := by
  induction items generalizing first before with
  | nil => exact congrArg _ (readItems_close (nextItem_closing first before tail))
  | cons x items ih =>
    rw [Source.itemsText_cons_append, readItems_item (nextItem_source first before _ x _), toOption_bind,
      h.run_bare x (Source.endsNumeral_itemsText _ _ _), List.mapM_cons]
    cases item.value? x with
    | none => rfl
    | some a =>
      simp only [Option.map_some, Option.bind_some, toOption_map, ih]
      cases items.mapM item.value? <;> rfl

/-! ## Objects -/

/-- What is done with the value of a member, told of the value as it is written. -/
def MemberUse.value? (use : MemberUse σ) (state : σ) (x : Source) : Option σ :=
  match use with
  | .take reader => reader.value? x
  | .pass => some state
  | .repeated => none

/-- What a member leads to from a state. -/
def memberStep (use : σ → String → MemberUse σ) (state : σ) (m : Key × Source) : Option σ :=
  m.1.name?.bind fun name => (use state name).value? state m.2

theorem nextMember_blanks (first : Bool) (before : Blanks) (s : List Char) :
    nextMember first (before.chars ++ s) = nextMember first s := by
  unfold nextMember
  rw [skipSpace_blanks]

theorem nextMember_quote (first : Bool) (before space : Blanks) (s : List Char) :
    nextMember first (before.chars ++ lead first (space.chars ++ '"' :: s)) = .ok (.item s) := by
  rw [nextMember_blanks]
  cases first with
  | true => exact (nextMember_blanks true space _).trans (nextMember_lead true s)
  | false =>
    refine Eq.trans ?_ (nextMember_lead false s)
    have comma (s : List Char) : skipSpace (',' :: s) = ',' :: s := skipSpace_eq_self (by decide) s
    simp only [nextMember, lead, Bool.false_eq_true, if_false, comma, skipSpace_blanks, if_true,
      if_neg (show ',' ≠ '}' by decide)]

theorem nextMember_closing (first : Bool) (before : Blanks) (tail : List Char) :
    nextMember first (before.chars ++ '}' :: tail) = .ok (.close tail) :=
  (nextMember_blanks first before _).trans (nextMember_brace first tail)

theorem readColon_key (key : Key) (tail : List Char) : readColon (key.pad.after.chars ++ ':' :: tail) = .ok tail := by
  unfold readColon
  rw [skipSpace_blanks, skipSpace_eq_self (by decide)]
  rfl

/-- The name of a member is read in front of whatever value. -/
theorem toOption_readString_key (key : Key) (tail : List Char) :
    ((readString (key.chars ++ '"' :: tail)).toOption.map fun p => (String.ofList p.1, p.2)) =
      key.name?.map fun name => (name, tail) := by
  obtain ⟨r, read⟩ := key.quoted.exists_readString
  rw [Key.name?, read, read]
  cases r <;> rfl

theorem readMembers_name_error {use : σ → String → MemberUse σ} {state : σ} {first : Bool} {s at_ : List Char}
    {fault : Fault} (next : nextMember first s = .ok (.item at_)) (name : readString at_ = .error fault) :
    readMembers use state first s = .error fault := by
  rw [readMembers]
  split
  · simp_all
  · simp_all
  · split <;> simp_all

/-- What is left of a state after a use of a member's value depends on the value alone. -/
theorem MemberUse.after?_source {use : MemberUse σ} (h : ∀ reader, use = .take reader → reader.Local) (state : σ)
    (before : Blanks) (x : Source) {tail : List Char} (ends : EndsNumeral tail) :
    use.after? state (before.chars ++ (x.bare ++ tail)) = (use.value? state x).map fun next => (next, tail) := by
  cases use with
  | take reader => exact h reader rfl before x tail ends
  | pass => rw [MemberUse.after?, x.skip before ends]; rfl
  | repeated => rfl

/-- The members of an object lead from state to state. -/
theorem toOption_readMembers {use : σ → String → MemberUse σ}
    (h : ∀ state name reader, use state name = .take reader → reader.Local) (members : List (Key × Source)) (state : σ)
    (first : Bool) (before : Blanks) (tail : List Char) :
    (readMembers use state first (before.chars ++ (Source.membersText first members ++ '}' :: tail))).toOption =
      (members.foldlM (memberStep use) state).map fun final => (final, tail) := by
  induction members generalizing state first before with
  | nil => exact congrArg _ (readMembers_close (nextMember_closing first before tail))
  | cons m members ih =>
    obtain ⟨key, x⟩ := m
    rw [Source.membersText_cons_append, List.foldlM_cons, memberStep]
    have name := toOption_readString_key key (key.pad.after.chars ++ ':' :: (x.pad.before.chars ++ (x.bare ++
      (x.pad.after.chars ++ (Source.membersText false members ++ '}' :: tail)))))
    cases read : readString _ with
    | error fault =>
      rw [read] at name
      rw [readMembers_name_error (nextMember_quote first before _ _) read]
      cases found : key.name? with
      | none => rfl
      | some name' => rw [found] at name; cases name
    | ok pair =>
      rw [read] at name
      cases found : key.name? with
      | none => rw [found] at name; cases name
      | some name' =>
        rw [found] at name
        obtain ⟨chars, afterName⟩ := pair
        obtain ⟨rfl, rfl⟩ := Prod.mk.inj (Option.some.inj name)
        rw [toOption_readMembers_member (nextMember_quote first before _ _) read (readColon_key key _),
          MemberUse.after?_source (h state _) state _ x (Source.endsNumeral_membersText _ _ _)]
        simp only [Option.bind_some]
        cases (use state (String.ofList chars)).value? state x with
        | none => rfl
        | some next => exact ih next false x.pad.after

/-! ## Values of every kind -/

/-- What a value of every kind is, if no more than `d` brackets may be opened. -/
def Source.json? : Nat → Source → Option Json
  | _, .scalar pad chars h => (Source.scalar pad chars h).scalar?.map Scalar.json
  | 0, _ => none
  | d + 1, .array _ _ items => (items.mapM (valueReader d).value?).map Json.array
  | d + 1, .object _ _ members =>
    (members.foldlM (memberStep (insertMember (valueReader d))) .empty).map fun map => .object map.entries

theorem valueReader_source_scalar (d : Nat) (before : Blanks) (pad : Pad) {chars : List Char} (h : IsScalar chars)
    {tail : List Char} (ends : EndsNumeral tail) :
    ((valueReader d).run (before.chars ++ (chars ++ tail))).toOption =
      ((Source.scalar pad chars h).scalar?.map Scalar.json).map fun json => (json, tail) := by
  have space : skipSpace (before.chars ++ (chars ++ tail)) = chars ++ tail :=
    Source.skipSpace_bare before (.scalar pad chars h) tail
  rw [valueReader_scalar d ((congrArg opening? space).trans (h.opening? tail)), space, toOption_map,
    Source.toOption_readScalar pad h ends]
  cases (Source.scalar pad chars h).scalar? <;> rfl

theorem means_valueReader (d : Nat) : (valueReader d).Means (Source.json? d) := by
  induction d with
  | zero =>
    intro before x tail ends
    have space := Source.skipSpace_bare before x tail
    cases x with
    | scalar pad chars h => exact valueReader_source_scalar 0 before pad h ends
    | array pad inside items =>
      rw [Source.bare_array_append] at space
      rw [Source.bare_array_append, valueReader_zero ((congrArg opening? space).trans (opening?_cons_square _))]
      rfl
    | object pad inside members =>
      rw [Source.bare_object_append] at space
      rw [Source.bare_object_append, valueReader_zero ((congrArg opening? space).trans (opening?_cons_curly _))]
      rfl
  | succ d ih =>
    intro before x tail ends
    have space := Source.skipSpace_bare before x tail
    cases x with
    | scalar pad chars h => exact valueReader_source_scalar (d + 1) before pad h ends
    | array pad inside items =>
      rw [Source.bare_array_append] at space
      rw [Source.bare_array_append, valueReader_array d space, toOption_map, toOption_readItems ih.isLocal,
        Source.json?]
      cases items.mapM (valueReader d).value? <;> rfl
    | object pad inside members =>
      have taken (map : NameMap Json) (name : String) (reader : Reader (NameMap Json))
          (used : insertMember (valueReader d) map name = .take reader) : reader.Local := by
        cases used
        exact ih.isLocal.map _
      rw [Source.bare_object_append] at space
      rw [Source.bare_object_append, valueReader_object d space, toOption_map, toOption_readMembers taken, Source.json?]
      cases members.foldlM (memberStep (insertMember (valueReader d))) .empty <;> rfl

end Json

end EntitlementClient
