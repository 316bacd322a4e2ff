/-
Decoding by a schema reads from a text what the value in the text stands for: it succeeds where the
grammar finds a value that stands for one of the type, and with that value.
-/
import EntitlementClient.Proofs.Json.Skip
import EntitlementClient.Proofs.Schema.Meaning

namespace EntitlementClient

open EntitlementClient.Json

namespace Json

/-! ## Scalars and lists -/

variable {α β σ τ : Type} {s rest : List Char} {d : Nat}

theorem Reads.toOption_scalarReader {json : Json} (h : Reads s json rest) (expected : Expected)
    (pick : Scalar → Except Cause α) :
    ((scalarReader expected pick).run s).toOption = (json.pick? pick).map fun a => (a, rest) := by
  cases h with
  | scalar value read =>
    simp only [scalarReader, readPicked, opening?_of_readScalar read, read, pick?, scalar?_json, Option.bind_some]
    cases pick value <;> rfl
  | array opens inner => simp only [scalarReader, readPicked, opens, opening?_cons_square]; rfl
  | object opens inner => simp only [scalarReader, readPicked, opens, opening?_cons_curly]; rfl

theorem toOption_runMap (f : α → β) (reader : Reader α) (s : List Char) :
    ((reader.map f).run s).toOption = (reader.run s).toOption.map fun p => (f p.1, p.2) := by
  simp only [Reader.map, Reader.runMap]
  cases reader.run s <;> rfl

theorem toOption_bind {ε : Type} (x : Except ε α) (f : α → Except ε β) :
    (x.bind f).toOption = x.toOption.bind fun a => (f a).toOption := by
  cases x <;> rfl

theorem toOption_map {ε : Type} (f : α → β) (x : Except ε α) : (x.map f).toOption = x.toOption.map f := by
  cases x <;> rfl

/-- A list is read as what its items stand for if every item is. -/
theorem ReadsItems.toOption_readItems {item : Reader α} {ofJson : Json → Option α}
    (each : ∀ {s rest json}, Reads s json rest → json.depth ≤ d →
      (item.run s).toOption = (ofJson json).map fun a => (a, rest))
    {first : Bool} {items : List Json} (h : ReadsItems first s items rest) (small : itemsDepth items ≤ d) :
    (readItems item first s).toOption = (items.mapM ofJson).map fun values => (values, rest) := by
  induction items generalizing first s with
  | nil =>
    cases h with
    | close next => rw [readItems_close next]; rfl
  | cons json items ih =>
    cases h with
    | item next value tail =>
      obtain ⟨small, smallTail⟩ := Nat.max_le.1 small
      rw [readItems_item next, toOption_bind, each value small, List.mapM_cons]
      cases ofJson json with
      | none => rfl
      | some a =>
        simp only [Option.map_some, Option.bind_some, toOption_map, ih tail smallTail]
        cases items.mapM ofJson <;> rfl

/-! ## Objects -/

/-- What is left of a state and a text after a use of a member's value. -/
def MemberUse.after? (use : MemberUse σ) (state : σ) (s : List Char) : Option (σ × List Char) :=
  match use with
  | .take reader => (reader.run s).toOption
  | .pass => (skip s).toOption.map fun rest => (state, rest)
  | .repeated => none

theorem MemberUse.after?_map (f : σ → τ) (use : MemberUse σ) (state : σ) (s : List Char) :
    (use.map f).after? (f state) s = (use.after? state s).map fun p => (f p.1, p.2) := by
  cases use with
  | take reader => exact toOption_runMap f reader s
  | pass => simp only [MemberUse.map, MemberUse.after?, Option.map_map]; rfl
  | repeated => rfl

theorem toOption_readMembers_member {use : σ → String → MemberUse σ} {state : σ} {first : Bool}
    {at_ chars afterName start : List Char} (next : nextMember first s = .ok (.item at_))
    (name : readString at_ = .ok (chars, afterName)) (colon : readColon afterName = .ok start) :
    (readMembers use state first s).toOption =
      ((use state (String.ofList chars)).after? state start).bind fun p =>
        (readMembers use p.1 false p.2).toOption := by
  rw [readMembers_member next name]
  cases use state (String.ofList chars) with
  | repeated => rfl
  | pass =>
    simp only [readMemberBy, colon, Except.bind, MemberUse.after?]
    cases skip start <;> rfl
  | take reader =>
    simp only [readMemberBy, colon, Except.bind, MemberUse.after?]
    cases reader.run start <;> rfl

/-- An object is read as its members lead from state to state if every use of a member does. -/
theorem ReadsMembers.toOption_readMembers {use : σ → String → MemberUse σ} {step : σ → String × Json → Option σ}
    (each : ∀ state name {s rest json}, Reads s json rest → json.depth ≤ d →
      (use state name).after? state s = (step state (name, json)).map fun next => (next, rest))
    (state : σ) {first : Bool} {members : List (String × Json)} (h : ReadsMembers first s members rest)
    (small : membersDepth members ≤ d) :
    (readMembers use state first s).toOption = (members.foldlM step state).map fun final => (final, rest) := by
  induction members generalizing first s state with
  | nil =>
    cases h with
    | close next => rw [readMembers_close next]; rfl
  | cons m members ih =>
    cases h with
    | member next name colon value tail =>
      obtain ⟨small, smallTail⟩ := Nat.max_le.1 small
      rw [toOption_readMembers_member next name colon, each state _ value small, List.foldlM_cons]
      cases step state _ with
      | none => rfl
      | some state => exact ih state tail smallTail

/-! ## Null -/

theorem readScalar_null {s : List Char} {value : Scalar} (h : readScalar ('n' :: s) = .ok (value, rest)) :
    value = .null ∧ readLiteral ['u', 'l', 'l'] s = .ok rest := by
  obtain ⟨after, read, pair⟩ := exists_of_map_eq_ok (show (readLiteral ['u', 'l', 'l'] s).map _ = _ from h)
  cases pair
  exact ⟨rfl, read⟩

theorem readScalar_not_null {c : Char} (ne : c ≠ 'n') {s : List Char} : readScalar (c :: s) ≠ .ok (.null, rest) := by
  intro h
  simp only [readScalar, if_neg ne] at h
  split at h
  · obtain ⟨_, _, pair⟩ := exists_of_map_eq_ok h
    cases pair
  split at h
  · obtain ⟨_, _, pair⟩ := exists_of_map_eq_ok h
    cases pair
  split at h
  · obtain ⟨_, _, pair⟩ := exists_of_map_eq_ok h
    cases pair
  split at h
  · obtain ⟨_, _, pair⟩ := exists_of_map_eq_ok h
    cases pair
  · cases h

theorem Reads.skipSpace_ne_nil {json : Json} (h : Reads s json rest) : skipSpace s ≠ [] := by
  intro eq
  cases h with
  | scalar value read => rw [eq] at read; cases read
  | array opens inner => rw [eq] at opens; cases opens
  | object opens inner => rw [eq] at opens; cases opens

/-- The text of null, and of no other value, begins with its first letter. -/
theorem Reads.null {json : Json} (h : Reads s json rest) {after : List Char} (eq : skipSpace s = 'n' :: after) :
    json = .null ∧ readLiteral ['u', 'l', 'l'] after = .ok rest := by
  cases h with
  | scalar value read =>
    rw [eq] at read
    obtain ⟨rfl, literal⟩ := readScalar_null read
    exact ⟨rfl, literal⟩
  | array opens inner => cases eq.symm.trans opens
  | object opens inner => cases eq.symm.trans opens

theorem Reads.ne_null {json : Json} (h : Reads s json rest) {c : Char} {after : List Char}
    (eq : skipSpace s = c :: after) (ne : c ≠ 'n') : json ≠ .null := by
  cases h with
  | scalar value read =>
    rw [eq] at read
    cases value with
    | null => exact absurd read (readScalar_not_null ne)
    | bool b => exact Json.noConfusion
    | number n => exact Json.noConfusion
    | text s => exact Json.noConfusion
  | array opens inner => exact Json.noConfusion
  | object opens inner => exact Json.noConfusion

end Json

namespace Schema

/-! ## Fields of an object -/

/-- The slots of a record after one more member. -/
def Fields.put? : {β : Type} → (fields : Fields β) → fields.Slots → String × Json → Option fields.Slots
  | _, .nil, _, _ => some ()
  | _, .cons field rest, slots, m =>
    if field.name.wire = m.1 then
      match slots.1 with
      | some _ => none
      | none => (field.ofJson m.2).map fun a => (some a, slots.2)
    else (rest.put? slots.2 m).map fun others => (slots.1, others)

/-- What a field's slot and further values of its name stand for. -/
def Field.fill {α : Type} (field : Field α) : Option α → List Json → Option α
  | none, values => soleValue field.absent.toOption field.ofJson values
  | some a, [] => some a
  | some _, _ :: _ => none

/-- What the slots and further members stand for. -/
def Fields.complete : {β : Type} → (fields : Fields β) → fields.Slots → List (String × Json) → Option β
  | _, .nil, _, _ => some ()
  | _, .cons field rest, slots, members =>
    (field.fill slots.1 (valuesOf field.name.wire members)).bind fun a =>
      (rest.complete slots.2 (members.filter fun m => m.1 ≠ field.name.wire)).map fun b => (a, b)

/-- A member may be put into its slot first. -/
theorem Fields.complete_cons : {β : Type} → (fields : Fields β) → (slots : fields.Slots) → (m : String × Json) →
    (members : List (String × Json)) →
    fields.complete slots (m :: members) = (fields.put? slots m).bind fun slots => fields.complete slots members
  | _, .nil, _, _, _ => rfl
  | _, .cons (α := α) field rest, slots, (name, json), members => by
    obtain ⟨slot, slots⟩ : Option α × rest.Slots := slots
    by_cases eq : field.name.wire = name
    · subst eq
      have dropped : ((field.name.wire, json) :: members).filter (fun m => m.1 ≠ field.name.wire) =
          members.filter fun m => m.1 ≠ field.name.wire := by
        simp
      simp only [complete, put?, if_true, valuesOf_cons_self, dropped]
      cases slot with
      | some a => rfl
      | none =>
        -- a second value of the name is one too many, in whatever order they are put in
        cases valuesOf field.name.wire members with
        | nil => simp only [Field.fill, soleValue]; cases field.ofJson json <;> rfl
        | cons second others => simp only [Field.fill, soleValue]; cases field.ofJson json <;> rfl
    · have kept : ((name, json) :: members).filter (fun m => m.1 ≠ field.name.wire) =
          (name, json) :: members.filter fun m => m.1 ≠ field.name.wire := by
        simp [Ne.symm eq]
      simp only [complete, put?, if_neg eq, valuesOf_cons_of_ne (Ne.symm eq), kept, complete_cons rest]
      cases rest.put? slots (name, json) with
      | none => cases field.fill slot (valuesOf field.name.wire members) <;> rfl
      | some others => rfl

theorem Fields.complete_nil : {β : Type} → (fields : Fields β) → (slots : fields.Slots) →
    fields.complete slots [] = (fields.finish slots).toOption
  | _, .nil, _ => rfl
  | _, .cons field rest, slots => by
    simp only [complete, finish, valuesOf_nil, List.filter_nil, complete_nil rest]
    cases slots.1 with
    | some a => simp [Field.fill, toOption_map]
    | none =>
      simp only [Field.fill, soleValue]
      cases field.absent with
      | error cause => rfl
      | ok a => exact (toOption_map _ _).symm

/-- Nothing but the members counts if the slots are empty. -/
theorem Fields.complete_start : {β : Type} → (fields : Fields β) → (members : List (String × Json)) →
    fields.complete fields.start members = fields.ofMembers members
  | _, .nil, _ => by simp only [complete, ofMembers]
  | _, .cons field rest, members => by
    simp only [complete, start, Field.fill, complete_start rest, ofMembers]

/-- Members that are put in one by one stand for the same as all of them together. -/
theorem Fields.finish_foldlM {β : Type} (fields : Fields β) (members : List (String × Json)) (slots : fields.Slots) :
    (members.foldlM fields.put? slots).bind (fun slots => (fields.finish slots).toOption) =
      fields.complete slots members := by
  induction members generalizing slots with
  | nil => exact (fields.complete_nil slots).symm
  | cons m members ih =>
    rw [fields.complete_cons, List.foldlM_cons]
    cases fields.put? slots m with
    | none => rfl
    | some slots => exact ih slots

theorem Fields.put?_of_not_mem : {β : Type} → (fields : Fields β) → (slots : fields.Slots) → (m : String × Json) →
    m.1 ∉ fields.wireNames → fields.put? slots m = some slots
  | _, .nil, _, _, _ => rfl
  | _, .cons field rest, slots, m, h => by
    obtain ⟨ne, h⟩ := not_or.1 (mt List.mem_cons.2 h)
    rw [put?, if_neg (Ne.symm ne), put?_of_not_mem rest slots.2 m h]
    rfl

theorem Fields.use_eq_pass : {β : Type} → (fields : Fields β) → (d : Nat) → (slots : fields.Slots) → (name : String) →
    fields.use d slots name = .pass → name ∉ fields.wireNames
  | _, .nil, _, _, _, _ => List.not_mem_nil
  | _, .cons field rest, d, slots, name, h => by
    rw [use] at h
    split at h
    · cases slot : slots.1 <;> rw [slot] at h <;> cases h
    · next ne =>
      refine fun mem => (List.mem_cons.1 mem).elim (fun eq => ne eq.symm) (use_eq_pass rest d slots.2 name ?_)
      cases used : rest.use d slots.2 name with
      | pass => rfl
      | take reader => rw [used] at h; cases h
      | repeated => rw [used] at h; cases h

theorem Fields.use_of_not_mem : {β : Type} → (fields : Fields β) → (d : Nat) → (slots : fields.Slots) →
    (name : String) → name ∉ fields.wireNames → fields.use d slots name = .pass
  | _, .nil, _, _, _, _ => by rw [use]
  | _, .cons field rest, d, slots, name, h => by
    obtain ⟨ne, h⟩ := not_or.1 (mt List.mem_cons.2 h)
    rw [use, if_neg (Ne.symm ne), use_of_not_mem rest d slots.2 name h]
    rfl

/-- One more member of a record that keeps the members that are no fields. -/
def Fields.putOpen? {β : Type} (fields : Fields β) (state : fields.Slots × NameMap Json) (m : String × Json) :
    Option (fields.Slots × NameMap Json) :=
  if m.1 ∈ fields.wireNames then (fields.put? state.1 m).map fun slots => (slots, state.2)
  else some (state.1, state.2.insert m.1 m.2.sorted)

/-- The fields and the other members are collected side by side. -/
theorem Fields.foldlM_putOpen? {β : Type} (fields : Fields β) (members : List (String × Json)) (slots : fields.Slots)
    (extra : NameMap Json) :
    members.foldlM fields.putOpen? (slots, extra) =
      (members.foldlM fields.put? slots).map fun slots => (slots, sortedMembers (fields.unknown members) extra) := by
  induction members generalizing slots extra with
  | nil => rfl
  | cons m members ih =>
    rw [List.foldlM_cons, List.foldlM_cons]
    by_cases h : m.1 ∈ fields.wireNames
    · have unknown : fields.unknown (m :: members) = fields.unknown members := by simp [unknown, h]
      rw [putOpen?, if_pos h, unknown]
      cases fields.put? slots m with
      | none => rfl
      | some slots => exact ih slots extra
    · have unknown : fields.unknown (m :: members) = m :: fields.unknown members := by simp [unknown, h]
      rw [putOpen?, if_neg h, unknown, fields.put?_of_not_mem slots m h]
      exact ih slots _

theorem toOption_readObject {σ α : Type} (use : σ → String → MemberUse σ) (start : σ) (finish : σ → Except Cause α)
    (s : List Char) :
    (readObject use start finish s).toOption =
      (readMembers use start true s).toOption.bind fun p => (finish p.1).toOption.map fun a => (a, p.2) := by
  unfold readObject
  cases readMembers use start true s with
  | error fault => rfl
  | ok pair =>
    simp only [Except.toOption, Option.bind_some]
    cases finish pair.1 <;> rfl

/-! ## Fields as items of a list -/

theorem Field.toOption_absentFromRow {α : Type} (field : Field α) (cause : Cause) :
    (field.absentFromRow cause).toOption = field.missingFromRow := by
  cases field <;> rfl

theorem toOption_readRowEnd {first : Bool} {s rest : List Char} {items : List Json}
    (h : ReadsItems first s items rest) :
    (readRowEnd s).toOption = if items = [] then some ((), rest) else none := by
  unfold readRowEnd
  cases h with
  | close next =>
    rw [nextItem_close next]
    rfl
  | item next value tail =>
    rw [if_neg (List.cons_ne_nil _ _)]
    cases first with
    | true =>
      obtain ⟨eq, c, after, rfl, ne⟩ := nextItem_first next
      rw [eq]
      simp only [if_neg ne]
      split
      · split <;> rfl
      · rfl
    | false =>
      obtain ⟨after, comma, rfl⟩ := nextItem_next next
      rw [comma]
      simp only [if_neg (show ',' ≠ ']' by decide), if_true]
      split <;> rfl

theorem toOption_readRow_close {α β : Type} {item : Reader α} {absent : Except Cause α} {rest : Bool → Reader β}
    {first : Bool} {s after : List Char} (next : nextItem first s = .ok (.close after)) :
    (readRow item absent rest first s).toOption =
      absent.toOption.bind fun a => ((rest first).run s).toOption.map fun p => ((a, p.1), p.2) := by
  unfold readRow
  simp only [next]
  cases absent with
  | error cause => rfl
  | ok a => cases (rest first).run s <;> rfl

theorem toOption_readRow_item {α β : Type} {item : Reader α} {absent : Except Cause α} {rest : Bool → Reader β}
    {first : Bool} {s at_ : List Char} (next : nextItem first s = .ok (.item at_)) :
    (readRow item absent rest first s).toOption =
      (item.run at_).toOption.bind fun p =>
        ((rest false).run p.2).toOption.map fun q => ((p.1, q.1), q.2) := by
  unfold readRow
  simp only [next]
  cases item.run at_ with
  | error fault => rfl
  | ok p =>
    simp only [Except.toOption, Option.bind_some]
    cases (rest false).run p.2 <;> rfl

/-! ## Brackets -/

theorem readBracket_scalar {α : Type} {expected : Expected} {d : Nat} {inside : Bracket → Option (Reader α)}
    {s rest : List Char} {value : Scalar} (read : readScalar (skipSpace s) = .ok (value, rest)) :
    (readBracket expected d inside s).toOption = none := by
  simp only [readBracket, opening?_of_readScalar read, Option.bind_none]
  rfl

theorem readBracket_start {α : Type} {expected : Expected} {d : Nat} {inside : Bracket → Option (Reader α)}
    {s t : List Char} (bracket : Bracket) (opens : skipSpace s = bracket.start :: t) :
    (readBracket expected (d + 1) inside s).toOption = (inside bracket).bind fun reader => (reader.run t).toOption := by
  have opening : opening? (skipSpace s) = some bracket := by rw [opens]; cases bracket <;> rfl
  simp only [readBracket, opening, Option.bind_some]
  cases inside bracket with
  | none => rfl
  | some reader => simp [opens]

/-- A bracketed value is read as what it stands for if its inside is. -/
theorem toOption_readBracket {α : Type} {expected : Expected} {d : Nat} {inside : Bracket → Option (Reader α)}
    {square : List Json → Option α} {curly : List (String × Json) → Option α} {s rest : List Char} {json : Json}
    (items : ∀ {t items}, ReadsItems true t items rest → itemsDepth items ≤ d - 1 →
      ((inside .square).bind fun reader => (reader.run t).toOption) = (square items).map fun a => (a, rest))
    (members : ∀ {t members}, ReadsMembers true t members rest → membersDepth members ≤ d - 1 →
      ((inside .curly).bind fun reader => (reader.run t).toOption) = (curly members).map fun a => (a, rest))
    (h : Reads s json rest) (small : json.depth ≤ d) :
    (readBracket expected d inside s).toOption = (ofBrackets square curly json).map fun a => (a, rest) := by
  cases h with
  | scalar value read =>
    rw [readBracket_scalar read]
    cases value <;> rfl
  | array opens inner =>
    obtain _ | d := d
    · exact absurd small (Nat.not_succ_le_zero _)
    · rw [readBracket_start .square opens]
      exact items inner (Nat.le_of_succ_le_succ small)
  | object opens inner =>
    obtain _ | d := d
    · exact absurd small (Nat.not_succ_le_zero _)
    · rw [readBracket_start .curly opens]
      exact members inner (Nat.le_of_succ_le_succ small)

/-! ## Models -/

theorem toOption_readNullable {α : Type} {reader : Reader α} {ofJson : Json → Option α} {s rest : List Char}
    {json : Json} (h : Reads s json rest) (inner : (reader.run s).toOption = (ofJson json).map fun a => (a, rest)) :
    (readNullable reader s).toOption = (nullable ofJson json).map fun a => (a, rest) := by
  have value (ne : json ≠ .null) :
      ((reader.map some).run s).toOption = (nullable ofJson json).map fun a => (a, rest) := by
    rw [toOption_runMap, inner, nullable_of_ne_null ofJson ne]
    cases ofJson json <;> rfl
  unfold readNullable
  split
  · next eq =>
    refine value ?_
    rintro rfl
    exact absurd eq h.skipSpace_ne_nil
  · next c after eq =>
    split
    · next n =>
      subst n
      obtain ⟨rfl, literal⟩ := h.null eq
      rw [literal]
      rfl
    · next ne => exact value (h.ne_null eq ne)

/-- What an open record does with a member. -/
def Fields.openUse {β : Type} (fields : Fields β) (d : Nat) (state : fields.Slots × NameMap Json) (name : String) :
    MemberUse (fields.Slots × NameMap Json) :=
  match fields.use d state.1 name with
  | .pass => .take ((valueReader d).map fun json => (state.1, state.2.insert name json))
  | use => use.map fun slots => (slots, state.2)

theorem Fields.after?_openUse {β : Type} (fields : Fields β) {d : Nat} (state : fields.Slots × NameMap Json)
    (name : String) {s rest : List Char} {json : Json} (h : Reads s json rest) (small : json.depth ≤ d)
    (inner : (fields.use d state.1 name).after? state.1 s =
      (fields.put? state.1 (name, json)).map fun slots => (slots, rest)) :
    (fields.openUse d state name).after? state s =
      (fields.putOpen? state (name, json)).map fun state => (state, rest) := by
  rw [openUse, putOpen?]
  by_cases mem : name ∈ fields.wireNames
  · rw [if_pos mem]
    have mapped := MemberUse.after?_map (fun slots => (slots, state.2)) (fields.use d state.1 name) state.1 s
    rw [inner] at mapped
    split
    · next pass => exact absurd mem (fields.use_eq_pass d state.1 name pass)
    · exact mapped.trans (by cases fields.put? state.1 _ <;> rfl)
  · rw [if_neg mem, fields.use_of_not_mem d state.1 name mem]
    simp only [MemberUse.after?, toOption_runMap, h.value d small]
    rfl

theorem after?_textsUse (map : NameMap String) (name : String) {s rest : List Char} {json : Json}
    (h : Reads s json rest) :
    (MemberUse.take ((scalarReader .text pickText).map (NameMap.insert map name))).after? map s =
      (insertText map (name, json)).map fun map => (map, rest) := by
  rw [MemberUse.after?, toOption_runMap, h.toOption_scalarReader, insertText]
  cases json.pick? pickText <;> rfl

mutual

/-- A value is decoded from its text to what it stands for. -/
theorem Shape.toOption_reader : {α : Type} → (shape : Shape α) → {d : Nat} → {s rest : List Char} → {json : Json} →
    Reads s json rest → json.depth ≤ d →
      ((shape.reader d).run s).toOption = (shape.ofJson json).map fun a => (a, rest)
  | _, .text, _, _, _, _, h, _ => h.toOption_scalarReader .text pickText
  | _, .flag, _, _, _, _, h, _ => h.toOption_scalarReader .flag pickFlag
  | _, .unsigned, _, _, _, _, h, _ => h.toOption_scalarReader .unsigned pickUnsigned
  | _, .signed, _, _, _, _, h, _ => h.toOption_scalarReader .signed pickSigned
  | _, .date, _, _, _, _, h, _ => h.toOption_scalarReader .date pickDate
  | _, .json, d, _, _, _, h, small => by
    rw [Shape.reader, h.value d small]
    rfl
  | _, .texts, d, _, _, json, h, small => by
    rw [Shape.ofJson_texts, Shape.reader]
    refine toOption_readBracket (fun _ _ => rfl) (fun inner small => ?_) h small
    simp only [Option.bind_some, textsReader, membersReader, toOption_readObject]
    rw [inner.toOption_readMembers (fun map name _ _ _ value _ => after?_textsUse map name value) .empty small]
    cases List.foldlM insertText NameMap.empty _ <;> rfl
  | _, .list item, d, _, _, json, h, small => by
    rw [Shape.ofJson_list, Shape.reader]
    refine toOption_readBracket (fun inner small => ?_) (fun _ _ => rfl) h small
    exact inner.toOption_readItems item.toOption_reader small
  | _, .record model fields form, d, _, _, json, h, small => by
    rw [Shape.ofJson_record, Shape.reader]
    refine toOption_readBracket (fun inner small => ?_) (fun inner small => ?_) h small
    · rw [Option.bind_some, toOption_runMap, fields.toOption_row inner small]
      cases fields.ofItems _ <;> rfl
    · simp only [Option.bind_some, membersReader, toOption_readObject]
      rw [inner.toOption_readMembers (fun slots name _ _ _ value small => fields.after?_use slots name value small)
        fields.start small, ← fields.complete_start, ← fields.finish_foldlM]
      cases List.foldlM fields.put? fields.start _ with
      | none => rfl
      | some slots => simp [toOption_map, Function.comp_def]
  | _, .openRecord model fields extra form, d, _, _, json, h, small => by
    rw [Shape.ofJson_openRecord, Shape.reader]
    refine toOption_readBracket (fun _ _ => rfl) (fun inner small => ?_) h small
    simp only [Option.bind_some, membersReader, toOption_readObject]
    show ((readMembers (fields.openUse (d - 1)) (fields.start, .empty) true _).toOption.bind _) = _
    rw [inner.toOption_readMembers (fun state name _ _ _ value small =>
      fields.after?_openUse state name value small (fields.after?_use state.1 name value small))
      (fields.start, .empty) small, fields.foldlM_putOpen?, ← fields.complete_start, ← fields.finish_foldlM]
    cases List.foldlM fields.put? fields.start _ with
    | none => rfl
    | some slots => simp [toOption_map, Function.comp_def]

theorem Fields.after?_use : {β : Type} → (fields : Fields β) → {d : Nat} → (slots : fields.Slots) → (name : String) →
    {s rest : List Char} → {json : Json} → Reads s json rest → json.depth ≤ d →
      (fields.use d slots name).after? slots s = (fields.put? slots (name, json)).map fun slots => (slots, rest)
  | _, .nil, _, _, _, _, _, _, h, _ => by
    rw [Fields.use, MemberUse.after?, h.skip]
    rfl
  | _, .cons field rest, d, slots, name, _, _, _, h, small => by
    rw [Fields.use, Fields.put?]
    by_cases eq : field.name.wire = name
    · rw [if_pos eq, if_pos eq]
      cases slots.1 with
      | some a => rfl
      | none =>
        refine (toOption_runMap _ _ _).trans ?_
        rw [field.toOption_reader h small]
        cases field.ofJson _ <;> rfl
    · rw [if_neg eq, if_neg eq]
      refine (MemberUse.after?_map (fun others => (slots.1, others)) (rest.use d slots.2 name) slots.2 _).trans ?_
      rw [rest.after?_use slots.2 name h small]
      cases rest.put? slots.2 _ <;> rfl

theorem Fields.toOption_row : {β : Type} → (fields : Fields β) → {tooFew : Nat → Cause} → {d index : Nat} →
    {first : Bool} → {s rest : List Char} → {items : List Json} → ReadsItems first s items rest → itemsDepth items ≤ d →
      ((fields.row tooFew d index first).run s).toOption = (fields.ofItems items).map fun row => (row, rest)
  | _, .nil, _, _, _, _, _, _, items, h, _ => by
    rw [Fields.row, rowEnd, toOption_readRowEnd h]
    cases items <;> rfl
  | _, .cons field rest, _, _, _, _, _, _, items, h, small => by
    rw [Fields.row, rowCons]
    cases h with
    | close next =>
      simp only [toOption_readRow_close next, field.toOption_absentFromRow,
        rest.toOption_row (.close next) (Nat.zero_le _), Fields.ofItems]
      cases field.missingFromRow with
      | none => rfl
      | some a => cases rest.ofItems [] <;> rfl
    | item next value tail =>
      obtain ⟨small, smallTail⟩ := Nat.max_le.1 small
      simp only [toOption_readRow_item next, field.toOption_reader value small, Fields.ofItems]
      cases field.ofJson _ with
      | none => rfl
      | some a =>
        simp only [Option.map_some, Option.bind_some, rest.toOption_row tail smallTail]
        cases rest.ofItems _ <;> rfl

theorem Field.toOption_reader : {α : Type} → (field : Field α) → {d : Nat} → {s rest : List Char} → {json : Json} →
    Reads s json rest → json.depth ≤ d →
      ((field.reader d).run s).toOption = (field.ofJson json).map fun a => (a, rest)
  | _, .required _ shape, _, _, _, _, h, small => by
    rw [Field.reader, Field.ofJson]
    exact shape.toOption_reader h small
  | _, .optional name shape, _, _, _, _, h, small => by
    rw [Field.reader, Field.ofJson]
    exact toOption_readNullable h (shape.toOption_reader h small)
  | _, .defaulted _ shape _, _, _, _, _, h, small => by
    rw [Field.reader, Field.ofJson]
    exact shape.toOption_reader h small

end

end Schema

end EntitlementClient
