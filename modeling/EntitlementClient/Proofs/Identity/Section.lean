/-
Blocks as they stand on the lines of a text: a label and the lines up to the end that bears this
label. Where every block is closed before another one begins, the strict reader reads just these,
whatever lines come after them.
-/
import EntitlementClient.Proofs.Identity.Pem

namespace EntitlementClient.Pem

open EntitlementClient.Text

/-- A block as it stands in a text: its label and the lines between its first line and its last. -/
structure Section where
  label : List Char
  body : List (List Char)
deriving DecidableEq

/-- The bytes of a block with a label and a text; `none` if the text is not base64. -/
def block? (label text : List Char) : Option Block :=
  (Base64.decodeUnpadded? text).map (⟨String.ofList label, ·⟩)

/-- The text of a block: its lines without the spaces at their ends. -/
def bodyText (body : List (List Char)) : List Char :=
  body.flatMap (dropEndWhile (· == ' '))

/-- The block that is written so. -/
def Section.block? (s : Section) : Option Block :=
  Pem.block? s.label (bodyText s.body)

/-- The label of the block that a line begins. -/
def opening? (line : List Char) : Option (List Char) :=
  if beginMark.isPrefixOf line then label? line else none

/-- Whether a line ends the blocks with a label. -/
def closes (label line : List Char) : Bool :=
  (endMark ++ label ++ fence).isPrefixOf line

/-- The lines before the end of a block with a label; `none` if another block begins before it, or
there is no end. -/
def enclosed? (label : List Char) : List (List Char) → Option (List (List Char))
  | [] => none
  | line :: rest =>
    if beginMark.isPrefixOf line then none
    else if closes label line then some []
    else (enclosed? label rest).map (line :: ·)

/-- The block that a line begins and the lines after it close. -/
def section? (line : List Char) (rest : List (List Char)) : Option Section :=
  (opening? line).bind fun label => (enclosed? label rest).map (⟨label, ·⟩)

/-- The blocks on some lines. -/
def sections : List (List Char) → List Section
  | [] => []
  | line :: rest => (section? line rest).toList ++ sections rest

/-- Whether every line that begins a block is followed by a line that ends it, before another block
begins. -/
def EachClosed (ls : List (List Char)) : Prop :=
  ∀ header after label, header :: after <:+ ls → opening? header = some label →
    ∃ body last rest, after = body ++ last :: rest ∧ (∀ line ∈ body, beginMark.isPrefixOf line = false) ∧
      closes label last = true

variable {label line : List Char} {ls ks body rest : List (List Char)}

/-! ## The lines of a block -/

theorem opening?_of_begins (h : beginMark.isPrefixOf line = true) : opening? line = label? line :=
  if_pos h

theorem opening?_of_not_begins (h : beginMark.isPrefixOf line = false) : opening? line = none := by
  rw [opening?, h, if_neg Bool.false_ne_true]

/-- No line both begins a block and ends one. -/
theorem not_begins_of_closes (h : closes label line = true) : beginMark.isPrefixOf line = false := by
  obtain ⟨after, rfl⟩ := List.isPrefixOf_iff_prefix.1 h
  rfl

/-- The lines of a block are found if and only if it has an end before another block begins. -/
theorem isSome_enclosed?_iff : ∀ {ls : List (List Char)}, (enclosed? label ls).isSome = true ↔
    ∃ body last rest, ls = body ++ last :: rest ∧ (∀ line ∈ body, beginMark.isPrefixOf line = false) ∧
      closes label last = true
  | [] => by simp [enclosed?]
  | line :: ls => by
    rw [enclosed?]
    constructor
    · intro h
      by_cases begins : beginMark.isPrefixOf line = true
      · rw [if_pos begins] at h
        cases h
      rw [if_neg begins] at h
      split at h
      · next ends => exact ⟨[], line, ls, rfl, fun _ hl => absurd hl List.not_mem_nil, ends⟩
      · rw [Option.isSome_map] at h
        obtain ⟨body, last, rest, rfl, plain, ends⟩ := isSome_enclosed?_iff.1 h
        exact ⟨line :: body, last, rest, rfl, List.forall_mem_cons.2 ⟨Bool.eq_false_iff.2 begins, plain⟩, ends⟩
    · rintro ⟨body, last, rest, eq, plain, ends⟩
      cases body with
      | nil =>
        cases eq
        rw [not_begins_of_closes ends, if_neg Bool.false_ne_true, if_pos ends]
        rfl
      | cons first body =>
        cases eq
        obtain ⟨no_begin, plain⟩ := List.forall_mem_cons.1 plain
        rw [no_begin, if_neg Bool.false_ne_true]
        split
        · rfl
        · rw [Option.isSome_map]
          exact isSome_enclosed?_iff.2 ⟨body, last, rest, rfl, plain, ends⟩

/-- What comes after the end of a block does not matter for it. -/
theorem enclosed?_append (ks : List (List Char)) (h : enclosed? label ls = some body) :
    enclosed? label (ls ++ ks) = some body := by
  fun_induction enclosed? label ls generalizing body with
  | case1 => cases h
  | case2 => cases h
  | case3 line rest no_begin ends => rw [List.cons_append, enclosed?, if_neg no_begin, if_pos ends, h]
  | case4 line rest no_begin no_end ih =>
    obtain ⟨within, hw, rfl⟩ := Option.map_eq_some_iff.1 h
    rw [List.cons_append, enclosed?, if_neg no_begin, if_neg no_end, ih hw]
    rfl

/-! ## Closed blocks -/

theorem eachClosed_nil : EachClosed [] :=
  fun _ _ _ h => absurd (List.suffix_nil.1 h) (List.cons_ne_nil _ _)

theorem eachClosed_cons : EachClosed (line :: rest) ↔
    (∀ label ∈ opening? line, (enclosed? label rest).isSome = true) ∧ EachClosed rest := by
  constructor
  · intro closed
    refine ⟨fun label h => isSome_enclosed?_iff.2 (closed line rest label List.suffix_rfl h), ?_⟩
    exact fun header after label within => closed header after label (within.trans (List.suffix_cons line rest))
  · rintro ⟨first, closed⟩ header after label within h
    rcases List.suffix_cons_iff.1 within with eq | within
    · cases eq
      exact isSome_enclosed?_iff.1 (first label h)
    · exact closed header after label within h

instance decidableEachClosed : ∀ ls, Decidable (EachClosed ls)
  | [] => .isTrue eachClosed_nil
  | _ :: rest =>
    have := decidableEachClosed rest
    decidable_of_iff _ eachClosed_cons.symm

theorem EachClosed.tail (closed : EachClosed (line :: rest)) : EachClosed rest :=
  (eachClosed_cons.1 closed).2

theorem EachClosed.exists_enclosed? (closed : EachClosed (line :: rest)) (h : opening? line = some label) :
    ∃ body, enclosed? label rest = some body :=
  Option.isSome_iff_exists.1 ((eachClosed_cons.1 closed).1 label h)

/-- An empty line at the end closes nothing. -/
theorem EachClosed.of_append_blank (closed : EachClosed (ls ++ [[]])) : EachClosed ls := by
  intro header after label within h
  have longer : header :: (after ++ [[]]) <:+ ls ++ [[]] := by
    obtain ⟨before, rfl⟩ := within
    exact ⟨before, by rw [List.append_assoc, List.cons_append]⟩
  obtain ⟨body, last, rest, eq, plain, ends⟩ := closed header (after ++ [[]]) label longer h
  rcases List.eq_nil_or_concat rest with rfl | ⟨others, final, rfl⟩
  · -- the empty line would be the end of the block
    rw [← List.singleton_inj.1 (List.append_inj' eq rfl).2] at ends
    cases ends
  · have split : after ++ [[]] = (body ++ last :: others) ++ [final] := by
      rw [eq, List.append_assoc, List.cons_append, List.concat_eq_append]
    exact ⟨body, last, others, (List.append_inj' split rfl).1, plain, ends⟩

/-- Closed blocks stay as they are, whatever comes after them. -/
theorem EachClosed.sections_append (ks : List (List Char)) : ∀ {ls : List (List Char)}, EachClosed ls →
    sections (ls ++ ks) = sections ls ++ sections ks
  | [], _ => rfl
  | line :: rest, closed => by
    have same : section? line (rest ++ ks) = section? line rest := by
      rcases h : opening? line with _ | label
      · rw [section?, section?, h, Option.bind_none, Option.bind_none]
      · obtain ⟨body, hb⟩ := closed.exists_enclosed? h
        rw [section?, section?, h, Option.bind_some, Option.bind_some, hb, enclosed?_append ks hb]
    rw [List.cons_append, sections, sections, same, closed.tail.sections_append ks, List.append_assoc]

/-! ## What the strict reader reads -/

/-- A line that begins a block and has no label spoils the whole text, wherever it stands. -/
theorem readBlocks_of_malformed (begins : beginMark.isPrefixOf line = true) (malformed : label? line = none)
    {within : Option (List Char)} {text : List Char} (there : line ∈ ls) : readBlocks within text ls = none := by
  have later : ∀ {first : List Char} {rest : List (List Char)}, ¬ beginMark.isPrefixOf first = true →
      line ∈ first :: rest → line ∈ rest :=
    fun no_begin there => (List.mem_cons.1 there).resolve_left fun eq => no_begin (eq ▸ begins)
  fun_induction readBlocks within text ls with
  | case1 => cases there
  | case2 => cases there
  | case3 => rfl
  | case4 within text first rest _ name named ih =>
    refine ih ((List.mem_cons.1 there).resolve_left ?_)
    rintro rfl
    rw [malformed] at named
    cases named
  | case5 text first rest no_begin ih => exact ih (later no_begin there)
  | case6 => rfl
  | case7 text first rest no_begin name _ content _ ih =>
    rw [ih (later no_begin there)]
    rfl
  | case8 text first rest no_begin name _ ih => exact ih (later no_begin there)

/-- The blocks that stand on some lines, and then what is read of others. -/
def readBefore (ls ks : List (List Char)) : Option (List Block) :=
  ((sections ls).mapM Section.block?).bind fun found => (readBlocks none [] ks).map (found ++ ·)

theorem readBefore_nil (ks : List (List Char)) : readBefore [] ks = readBlocks none [] ks := by
  rw [readBefore, sections, List.mapM_nil]
  exact Option.map_id'

theorem readBefore_of_not_begins (h : beginMark.isPrefixOf line = false) :
    readBefore (line :: rest) ks = readBefore rest ks := by
  rw [readBefore, readBefore, sections, section?, opening?_of_not_begins h]
  rfl

theorem readBefore_section (h : opening? line = some label) (hb : enclosed? label rest = some body) :
    readBefore (line :: rest) ks =
      (block? label (bodyText body)).bind fun block => (readBefore rest ks).map (block :: ·) := by
  have first : section? line rest = some ⟨label, body⟩ := by
    rw [section?, h, Option.bind_some, hb]
    rfl
  rw [readBefore, readBefore, sections, first, Option.toList_some, List.singleton_append, List.mapM_cons]
  simp only [Section.block?, Option.bind_eq_bind, Option.pure_def, Option.bind_assoc, Option.bind_some, Option.map_bind,
    Option.map_map, Function.comp_def, List.cons_append]

/-- Closed blocks that have a label are read as they stand, before any other lines. Between blocks
nothing is left of the lines before; within a block it is the text so far. -/
theorem EachClosed.readBlocks_append (ks : List (List Char)) : ∀ {ls : List (List Char)}, EachClosed ls →
    (∀ line ∈ ls, beginMark.isPrefixOf line = true → label? line ≠ none) →
      readBlocks none [] (ls ++ ks) = readBefore ls ks ∧
        ∀ label text body, enclosed? label ls = some body →
          readBlocks (some label) text (ls ++ ks) =
            (block? label (text ++ bodyText body)).bind fun block => (readBefore ls ks).map (block :: ·)
  | [], _, _ => ⟨(readBefore_nil ks).symm, fun _ _ _ h => by cases h⟩
  | line :: rest, closed, labelled => by
    obtain ⟨first, labelled⟩ := List.forall_mem_cons.1 labelled
    obtain ⟨between, within⟩ := closed.tail.readBlocks_append ks labelled
    by_cases begins : beginMark.isPrefixOf line = true
    · -- the block that begins here is read within; no block can be open, as it would have no end
      obtain ⟨label, named⟩ := Option.ne_none_iff_exists'.1 (first begins)
      have h : opening? line = some label := (opening?_of_begins begins).trans named
      obtain ⟨body, hb⟩ := closed.exists_enclosed? h
      constructor
      · rw [List.cons_append, readBlocks, if_pos begins, named, readBefore_section h hb]
        exact within label [] body hb
      · intro label' text body' hb'
        rw [enclosed?, if_pos begins] at hb'
        cases hb'
    · rw [readBefore_of_not_begins (Bool.eq_false_iff.2 begins)]
      constructor
      · rw [List.cons_append, readBlocks, if_neg begins]
        exact between
      · intro label text body hb
        rw [enclosed?, if_neg begins] at hb
        rw [List.cons_append, readBlocks, if_neg begins]
        split at hb
        · next ends =>
          have stops : (endMark ++ label ++ fence).isPrefixOf line = true := ends
          cases hb
          rw [if_pos stops, between, bodyText, List.flatMap_nil, List.append_nil, block?]
          rcases Base64.decodeUnpadded? text with _ | content <;> rfl
        · next open_still =>
          have goes_on : ¬ (endMark ++ label ++ fence).isPrefixOf line = true := open_still
          obtain ⟨later, hl, rfl⟩ := Option.map_eq_some_iff.1 hb
          rw [if_neg goes_on, within _ _ _ hl, bodyText, bodyText, List.flatMap_cons, List.append_assoc]

/-- The strict reader reads the blocks as they stand. -/
theorem EachClosed.readBlocks_eq_mapM (closed : EachClosed ls)
    (labelled : ∀ line ∈ ls, beginMark.isPrefixOf line = true → label? line ≠ none) :
    readBlocks none [] ls = (sections ls).mapM Section.block? := by
  have alone := (closed.readBlocks_append [] labelled).1
  rw [List.append_nil, readBefore, readBlocks] at alone
  simpa using alone

/-- Lines on which every block is closed are read by themselves, whatever lines come after them. -/
theorem EachClosed.readBlocks_append_eq (closed : EachClosed ls) (ks : List (List Char)) :
    readBlocks none [] (ls ++ ks) = do
      let found ← readBlocks none [] ls
      let others ← readBlocks none [] ks
      return found ++ others := by
  by_cases malformed : ∃ line ∈ ls, beginMark.isPrefixOf line = true ∧ label? line = none
  · obtain ⟨line, there, begins, unnamed⟩ := malformed
    rw [readBlocks_of_malformed begins unnamed there,
      readBlocks_of_malformed begins unnamed (List.mem_append_left ks there)]
    rfl
  · have labelled : ∀ line ∈ ls, beginMark.isPrefixOf line = true → label? line ≠ none :=
      fun line there begins unnamed => malformed ⟨line, there, begins, unnamed⟩
    rw [(closed.readBlocks_append ks labelled).1, readBefore, closed.readBlocks_eq_mapM labelled]
    simp only [Option.map_eq_bind]
    rfl

/-- A block that is left open is closed by the lines that come after it. -/
example : ¬ EachClosed [beginMark ++ 'A' :: fence] ∧ readBlocks none [] [beginMark ++ 'A' :: fence] = none ∧
    readBlocks none [] [beginMark ++ 'A' :: fence, endMark ++ 'A' :: fence] = some [⟨"A", []⟩] := by
  decide

end EntitlementClient.Pem
