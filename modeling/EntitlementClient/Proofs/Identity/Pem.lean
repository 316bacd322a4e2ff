/-
The two readers of blocks, side by side. The loose one tells where in the lines of a text its first
block stands; the strict one, if it reads the whole text, finds the same bytes there. Lines end
differently for the two: the strict one also ends a line at a carriage return.
-/
import EntitlementClient.Identity.Pem
import EntitlementClient.Proofs.Text.Base64
import EntitlementClient.Proofs.Text.Lines

namespace EntitlementClient.Pem

open EntitlementClient.Text

/-! ## The loose reader -/

/-- The text of a block is what stands on the lines before the line that ends it. -/
theorem body?_eq_some : ∀ {ls : List (List Char)} {text : List Char}, body? ls = some text →
    ∃ body last after, ls = body ++ last :: after ∧ endMark.isPrefixOf last = true ∧ text = body.flatMap trimEnd
  | [], text, h => by cases h
  | line :: rest, text, h => by
    rw [body?] at h
    by_cases ends : endMark.isPrefixOf line = true
    · rw [if_pos ends] at h
      cases h
      exact ⟨[], line, rest, rfl, ends, rfl⟩
    · rw [if_neg ends] at h
      obtain ⟨later, hl, rfl⟩ := Option.map_eq_some_iff.1 h
      obtain ⟨body, last, after, rfl, hlast, rfl⟩ := body?_eq_some hl
      exact ⟨line :: body, last, after, rfl, hlast, rfl⟩

/-- Where the first block stands in some lines. -/
structure Stands (ls before : List (List Char)) (header : List Char) (body : List (List Char)) (last : List Char)
    (after : List (List Char)) (block : Block) : Prop where
  parts : ls = before ++ header :: (body ++ last :: after)
  none_before : ∀ line ∈ before, beginMark.isPrefixOf line = false
  begins : beginMark.isPrefixOf header = true
  ends : endMark.isPrefixOf last = true
  content : Base64.decode? (body.flatMap trimEnd) = some block.content
  label : block.label = String.ofList ((header.drop beginMark.length).takeWhile (· != '-'))

theorem first_ok {s : List Char} {block : Block} (h : first s = .ok block) :
    ∃ before header body last after, Stands (lines s) before header body last after block := by
  have whole := List.takeWhile_append_dropWhile (p := fun line => !beginMark.isPrefixOf line) (l := lines s)
  have skipped :
      ∀ line ∈ (lines s).takeWhile (fun line => !beginMark.isPrefixOf line), beginMark.isPrefixOf line = false :=
    fun line hl => by simpa using List.all_eq_true.1 List.all_takeWhile line hl
  have start := List.head?_dropWhile_not (fun line => !beginMark.isPrefixOf line) (lines s)
  unfold first at h
  rcases hd : (lines s).dropWhile (fun line => !beginMark.isPrefixOf line) with _ | ⟨header, rest⟩
  · rw [hd] at h; cases h
  rw [hd] at h start whole
  simp only at h
  split at h
  · rcases hb : body? rest with _ | text
    · rw [hb] at h; cases h
    rw [hb] at h
    simp only at h
    rcases hc : Base64.decode? text with _ | content
    · rw [hc] at h; cases h
    rw [hc] at h
    cases h
    obtain ⟨body, last, after, rfl, hlast, rfl⟩ := body?_eq_some hb
    exact ⟨_, header, body, last, after, whole.symm, skipped, by simpa using start, hlast, hc, rfl⟩
  · cases h

/-! ## The strict reader -/

variable {name : List Char} {text : List Char} {rest : List (List Char)} {blocks : List Block}

/-- The text of a block that is read to its end is base64 from the start. -/
theorem isSign_of_readBlocks {label : Option (List Char)} {ls : List (List Char)} (hl : label.isSome = true)
    (h : readBlocks label text ls = some blocks) : ∀ c ∈ text, Base64.isSign c = true := by
  fun_induction readBlocks label text ls generalizing blocks with
  | case1 label text empty => simp_all
  | case2 => cases h
  | case3 => cases h
  | case4 label text line rest _ label' _ ih => exact ih rfl h
  | case5 => cases hl
  | case6 => cases h
  | case7 text line rest _ name _ content hc _ => exact Base64.isSign_of_decodeUnpadded? hc
  | case8 text line rest _ name _ ih => exact fun c hc => ih rfl h c (List.mem_append_left _ hc)

/-- A line without a dash bounds no block. -/
theorem not_isPrefixOf_of_no_dash {mark line : List Char} (hm : '-' ∈ mark) (hl : '-' ∉ line) :
    mark.isPrefixOf line = false := by
  rw [Bool.eq_false_iff, ne_eq, List.isPrefixOf_iff_prefix]
  exact fun h => hl (h.subset hm)

/-- What is left of lines that bound no block is added to the text. -/
theorem readBlocks_append : ∀ {ls : List (List Char)} {text : List Char}, (∀ line ∈ ls, '-' ∉ line) →
    readBlocks (some name) text (ls ++ rest) =
      readBlocks (some name) (text ++ ls.flatMap (dropEndWhile (· == ' '))) rest
  | [], text, _ => by rw [List.nil_append, List.flatMap_nil, List.append_nil]
  | line :: ls, text, h => by
    have plain := h line List.mem_cons_self
    have no_begin : beginMark.isPrefixOf line = false := not_isPrefixOf_of_no_dash (by decide) plain
    have no_end : (endMark ++ name ++ fence).isPrefixOf line = false :=
      not_isPrefixOf_of_no_dash (List.mem_append_left _ (List.mem_append_left _ (by decide))) plain
    rw [List.cons_append, readBlocks, no_begin, if_neg Bool.false_ne_true]
    simp only [no_end, Bool.false_eq_true, if_false]
    rw [readBlocks_append fun l hl => h l (List.mem_cons_of_mem line hl), List.flatMap_cons, List.append_assoc]

/-- Lines between blocks are passed over. -/
theorem readBlocks_skip : ∀ {ls : List (List Char)}, (∀ line ∈ ls, beginMark.isPrefixOf line = false) →
    readBlocks none text (ls ++ rest) = readBlocks none text rest
  | [], _ => rfl
  | line :: ls, h => by
    rw [List.cons_append, readBlocks, h line List.mem_cons_self, if_neg Bool.false_ne_true]
    exact readBlocks_skip fun l hl => h l (List.mem_cons_of_mem line hl)

/-- A line that begins like the end of a block ends it; a text that is read to the end cannot hold a
dash. -/
theorem readBlocks_last {last : List Char} (hlast : endMark.isPrefixOf last = true)
    (h : readBlocks (some name) text (last :: rest) = some blocks) :
    ∃ content others, Base64.decodeUnpadded? text = some content ∧
      blocks = ⟨String.ofList name, content⟩ :: others := by
  obtain ⟨after, rfl⟩ := List.isPrefixOf_iff_prefix.1 hlast
  have no_begin : beginMark.isPrefixOf (endMark ++ after) = false := rfl
  rw [readBlocks, no_begin, if_neg Bool.false_ne_true] at h
  split at h
  · rcases hc : Base64.decodeUnpadded? text with _ | content
    · rw [hc] at h; cases h
    · rw [hc] at h
      obtain ⟨others, -, rfl⟩ := Option.map_eq_some_iff.1 h
      exact ⟨content, others, rfl, rfl⟩
  · -- the line would become part of the text, dashes and all
    obtain ⟨dropped, eq, spaces⟩ := exists_dropEndWhile (· == ' ') (endMark ++ after)
    have dash : '-' ∈ endMark ++ after := List.mem_append_left _ (by decide)
    rw [eq] at dash
    rcases List.mem_append.1 dash with kept | lost
    · exact absurd (isSign_of_readBlocks rfl h '-' (List.mem_append_right _ kept)) (by decide)
    · exact absurd (spaces '-' lost) (by decide)

/-! ## Lines of both readers -/

/-- The strict reader has several lines where the loose one has a line with carriage returns. -/
def parts (line : List Char) : List (List Char) :=
  splitWhere (· == '\r') line

theorem blocks?_eq (s : List Char) : blocks? s = readBlocks none [] ((lines s).flatMap parts) := by
  unfold blocks?
  rw [show isLineEnd = fun c => c == '\n' || c == '\r' from rfl, splitWhere_or]
  rfl

theorem mem_of_mem_parts {line part : List Char} (h : part ∈ parts line) {c : Char} (hc : c ∈ part) : c ∈ line := by
  have there : c ∈ (parts line).flatten := List.mem_flatten.2 ⟨part, h, hc⟩
  rw [parts, flatten_splitWhere] at there
  exact (List.mem_filter.1 there).1

/-- Whether carriage returns stand at the end of a line and nowhere else. -/
def returnsLast (line : List Char) : Bool :=
  (line.dropWhile (· != '\r')).all (· == '\r')

/-- The first part of a line starts with a mark if the line does. -/
theorem exists_parts {mark line : List Char} (hm : '\r' ∉ mark) (h : mark.isPrefixOf line = true) :
    ∃ part more, parts line = part :: more ∧ part <+: line ∧ mark.isPrefixOf part = true := by
  obtain ⟨more, eq⟩ := splitWhere_eq_takeWhile_cons (p := (· == '\r')) line
  refine ⟨_, more, eq, List.takeWhile_prefix _, ?_⟩
  rw [List.isPrefixOf_iff_prefix] at h ⊢
  obtain ⟨after, rfl⟩ := h
  have plain : ∀ c ∈ mark, (!(c == '\r')) = true := fun c hc => bne_iff_ne.2 (ne_of_mem_of_not_mem hc hm)
  rw [List.takeWhile_append_of_pos plain]
  exact List.prefix_append _ _

/-! ## The text of a block -/

theorem filter_isSign_parts (line : List Char) :
    ((parts line).flatMap (dropEndWhile (· == ' '))).filter Base64.isSign = line.filter Base64.isSign := by
  have space : ∀ c, (c == ' ') = true → Base64.isSign c = false := by
    intro c hc
    rw [beq_iff_eq.1 hc]
    decide
  have returns : ∀ c ∈ line, Base64.isSign c = true → (!(c == '\r')) = true := by
    rintro c - hc
    have ne : c ≠ '\r' := by
      rintro rfl
      exact absurd hc (by decide)
    simpa using ne
  calc ((parts line).flatMap (dropEndWhile (· == ' '))).filter Base64.isSign
      = (parts line).flatMap fun part => part.filter Base64.isSign := by
        simp only [List.filter_flatMap, filter_dropEndWhile space]
    _ = (parts line).flatten.filter Base64.isSign := by rw [← List.flatMap_id', List.filter_flatMap]
    _ = line.filter Base64.isSign := by
      rw [parts, flatten_splitWhere, List.filter_filter]
      refine List.filter_congr fun c hc => ?_
      rcases hs : Base64.isSign c with _ | _
      · rfl
      · rw [returns c hc hs]
        rfl

theorem filter_isSign_trimEnd (line : List Char) : (trimEnd line).filter Base64.isSign = line.filter Base64.isSign :=
  filter_dropEndWhile (fun _ => Base64.not_isSign_of_isBlank) line

/-- Both readers make the same text of lines, if both make base64 of them. -/
theorem text_eq {body : List (List Char)} (loose : ∀ c ∈ body.flatMap trimEnd, Base64.isSign c = true)
    (strict : ∀ c ∈ (body.flatMap parts).flatMap (dropEndWhile (· == ' ')), Base64.isSign c = true) :
    (body.flatMap parts).flatMap (dropEndWhile (· == ' ')) = body.flatMap trimEnd := by
  rw [← List.filter_eq_self.2 loose, ← List.filter_eq_self.2 strict, List.flatMap_assoc, List.filter_flatMap,
    List.filter_flatMap]
  simp only [filter_isSign_parts, filter_isSign_trimEnd]

/-- No dash stands on a line of a block that the loose reader reads. -/
theorem no_dash_of_isSign {line : List Char} (h : ∀ c ∈ trimEnd line, Base64.isSign c = true) : '-' ∉ line := by
  obtain ⟨dropped, eq, blank⟩ := exists_dropEndWhile isBlank line
  intro dash
  rw [eq] at dash
  rcases List.mem_append.1 dash with kept | lost
  · exact absurd (h '-' kept) (by decide)
  · exact absurd (blank '-' lost) (by decide)

/-! ## Labels -/

/-- A label without dashes is read alike by both readers, whatever follows the line. -/
theorem takeWhile_of_label? {header label : List Char} (h : label? header = some label) (dash : '-' ∉ label)
    (t : List Char) : (header.drop beginMark.length ++ t).takeWhile (· != '-') = label := by
  obtain ⟨closing, eq, closes⟩ := exists_dropEndWhile (fun c => c == '-' || c == ' ') (header.drop beginMark.length)
  simp only [label?] at h
  generalize dropEndWhile (fun c => c == '-' || c == ' ') (header.drop beginMark.length) = named at h eq
  rw [eq, List.drop_left] at h
  split at h
  · next five =>
    cases h
    have named_free : ∀ c ∈ named, (c != '-') = true :=
      fun c hc => bne_iff_ne.2 (ne_of_mem_of_not_mem (List.mem_append_left _ hc) dash)
    have there : '-' ∈ closing := List.count_pos_iff.1 (by rw [five]; decide)
    obtain ⟨spaces, others, rfl, free⟩ := List.eq_append_cons_of_mem there
    have spaces_free : ∀ c ∈ spaces, (c != '-') = true :=
      fun c hc => bne_iff_ne.2 (ne_of_mem_of_not_mem hc free)
    have spaces_blank : ∀ c ∈ spaces, (c == ' ') = true := by
      intro c hc
      have either := closes c (List.mem_append_left _ hc)
      simpa [show c ≠ '-' by simpa using spaces_free c hc] using either
    rw [eq, List.append_assoc, List.append_assoc, List.takeWhile_append_of_pos named_free,
      List.takeWhile_append_of_pos spaces_free, List.takeWhile_append_of_pos spaces_blank]
    simp
  · cases h

/-! ## The first block -/

/-- Whether carriage returns stand at the ends of the lines alone, up to the line that begins a block. -/
def returnsLastUntilBlock : List (List Char) → Bool
  | [] => true
  | line :: rest => returnsLast line && (beginMark.isPrefixOf line || returnsLastUntilBlock rest)

theorem returnsLast_of_mem : ∀ {before : List (List Char)} {header : List Char} {rest : List (List Char)},
    returnsLastUntilBlock (before ++ header :: rest) = true → (∀ line ∈ before, beginMark.isPrefixOf line = false) →
      (∀ line ∈ before, returnsLast line = true) ∧ returnsLast header = true
  | [], header, rest, h, _ => by
    rw [List.nil_append, returnsLastUntilBlock, Bool.and_eq_true] at h
    exact ⟨fun line hl => absurd hl List.not_mem_nil, h.1⟩
  | line :: before, header, rest, h, none_before => by
    rw [List.cons_append, returnsLastUntilBlock, none_before line List.mem_cons_self, Bool.false_or,
      Bool.and_eq_true] at h
    obtain ⟨later, last⟩ := returnsLast_of_mem h.2 fun l hl => none_before l (List.mem_cons_of_mem line hl)
    exact ⟨List.forall_mem_cons.2 ⟨h.1, later⟩, last⟩

/-- Nothing stands on the other parts of a line whose carriage returns come last. -/
theorem tail_parts {line : List Char} (h : returnsLast line = true) : ∀ part ∈ (parts line).tail, part = [] :=
  splitWhere_of_separators_last fun c hc => List.all_eq_true.1 h c hc

theorem parts_no_begin {line : List Char} (h : returnsLast line = true) (no : beginMark.isPrefixOf line = false) :
    ∀ part ∈ parts line, beginMark.isPrefixOf part = false := by
  intro part hp
  have rest_empty := tail_parts h
  obtain ⟨more, eq⟩ := splitWhere_eq_takeWhile_cons (p := (· == '\r')) line
  rw [parts, eq] at hp rest_empty
  rcases List.mem_cons.1 hp with rfl | hp
  · rw [Bool.eq_false_iff, ne_eq, List.isPrefixOf_iff_prefix] at no ⊢
    exact fun starts => no (starts.trans (List.takeWhile_prefix _))
  · rw [rest_empty part hp]
    rfl

/-- The strict reader finds the block that the loose reader has found, if it reads the text at all. -/
theorem readBlocks_stands {ls before body after : List (List Char)} {header last : List Char} {block : Block}
    (stands : Stands ls before header body last after block) (before_plain : ∀ line ∈ before, returnsLast line = true)
    (header_plain : returnsLast header = true) (h : readBlocks none [] (ls.flatMap parts) = some blocks) :
    ∃ label others, blocks = ⟨label, block.content⟩ :: others ∧ ('-' ∉ label.toList → block.label = label) := by
  obtain ⟨rfl, none_before, begins, ends, content, label⟩ := stands
  have skipped : ∀ part ∈ before.flatMap parts, beginMark.isPrefixOf part = false := by
    intro part hp
    obtain ⟨line, hl, hp⟩ := List.mem_flatMap.1 hp
    exact parts_no_begin (before_plain line hl) (none_before line hl) part hp
  -- the marks hold no carriage return, so each is found at the start of the first part of its line
  obtain ⟨first, more, hparts, ⟨rest, rfl⟩, first_begins⟩ := exists_parts (by decide) begins
  obtain ⟨end_part, end_more, hend, -, end_ends⟩ := exists_parts (by decide) ends
  have header_empty := tail_parts header_plain
  rw [hparts, List.tail_cons] at header_empty
  have header_text : more.flatMap (dropEndWhile (· == ' ')) = [] :=
    List.flatMap_eq_nil_iff.2 fun part hp => by rw [header_empty part hp, dropEndWhile_nil]
  have header_dash : ∀ part ∈ more, '-' ∉ part := fun part hp => by rw [header_empty part hp]; exact List.not_mem_nil
  have signs := Base64.isSign_of_decode? content
  have body_dash : ∀ part ∈ body.flatMap parts, '-' ∉ part := by
    intro part hp dash
    obtain ⟨line, hl, hp⟩ := List.mem_flatMap.1 hp
    exact no_dash_of_isSign (fun c hc => signs c (List.mem_flatMap.2 ⟨line, hl, hc⟩)) (mem_of_mem_parts hp dash)
  rw [List.flatMap_append, List.flatMap_cons, List.flatMap_append, List.flatMap_cons, readBlocks_skip skipped, hparts,
    hend, List.cons_append, List.cons_append, readBlocks, if_pos first_begins] at h
  rcases hname : label? first with _ | name
  · rw [hname] at h; cases h
  rw [hname] at h
  simp only at h
  rw [readBlocks_append header_dash, header_text, readBlocks_append body_dash, List.append_nil, List.nil_append] at h
  -- the rest is read to its end, so what has been gathered so far is base64, which is all that both gather
  have strict := isSign_of_readBlocks rfl h
  rw [text_eq signs strict] at h
  obtain ⟨read, others, hread, rfl⟩ := readBlocks_last end_ends h
  rw [Base64.decodeUnpadded?_of_decode? content] at hread
  cases hread
  refine ⟨String.ofList name, others, rfl, fun dash => ?_⟩
  rw [String.toList_ofList] at dash
  have long : beginMark.length ≤ first.length := (List.isPrefixOf_iff_prefix.1 first_begins).length_le
  rw [label, List.drop_append_of_le_length long, takeWhile_of_label? hname dash]

end EntitlementClient.Pem
