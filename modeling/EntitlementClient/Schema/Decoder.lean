/-
Decoding by a schema: reading a model straight from JSON text, with the first fault in the order of
the text.
-/
import EntitlementClient.Schema.Basic

namespace EntitlementClient.Schema

open EntitlementClient.Json

/-! ## Scalars -/

/-- Accepts a string. -/
def pickText : Scalar → Except Cause String
  | .text s => .ok s
  | value => .error (.wrongKind (.scalar value) .text)

/-- Accepts true and false. -/
def pickFlag : Scalar → Except Cause Bool
  | .bool b => .ok b
  | value => .error (.wrongKind (.scalar value) .flag)

/-- Accepts an integer of 64 bits without a sign. -/
def pickUnsigned : Scalar → Except Cause UInt64
  | .number (.integer n _ _) =>
    if 0 ≤ n then .ok (UInt64.ofNat n.toNat) else .error (.wrongRange n .unsigned)
  | value => .error (.wrongKind (.scalar value) .unsigned)

/-- Accepts an integer of 64 bits with a sign. -/
def pickSigned : Scalar → Except Cause Int64
  | .number (.integer n _ _) =>
    if n < 0x8000000000000000 then .ok (Int64.ofInt n) else .error (.wrongRange n .signed)
  | value => .error (.wrongKind (.scalar value) .signed)

/-- Accepts a string that is the text of a date. -/
def pickDate : Scalar → Except Cause Date
  | .text s => (Date.parse s.toList).mapError .badDate
  | value => .error (.wrongKind (.scalar value) .date)

/-! ## Brackets -/

/-- Reads what stands in brackets of one kind, if one more bracket may be opened. -/
def readBracket {α : Type} (expected : Expected) (depth : Nat)
    (inside : Bracket → Option (Reader α)) (s : List Char) : Except Fault (α × List Char) :=
  match (opening? (skipSpace s)).bind inside with
  | none => .error (mismatch expected (skipSpace s))
  | some reader =>
    -- a bracket of the wrong kind is reported first, however deep it stands
    if depth = 0 then .error (.within .tooDeep (skipSpace s))
    else reader.run ((skipSpace s).drop 1)

theorem readBracket_length_lt {α : Type} {expected : Expected} {depth : Nat}
    {inside : Bracket → Option (Reader α)} {s : List Char} {a : α} {rest : List Char}
    (h : readBracket expected depth inside s = .ok (a, rest)) : rest.length < s.length := by
  unfold readBracket at h
  have := length_skipSpace_le s
  have := List.length_drop (i := 1) (l := skipSpace s)
  split at h
  · cases h
  · next reader _ =>
    split at h
    · cases h
    · have := reader.shorter h; omega

/-- The reader of what stands in brackets of one kind. -/
def bracketReader {α : Type} (expected : Expected) (depth : Nat)
    (inside : Bracket → Option (Reader α)) : Reader α :=
  ⟨readBracket expected depth inside, readBracket_length_lt⟩

/-- The reader of the items of a list after its opening bracket. -/
def itemsReader {α : Type} (item : Reader α) : Reader (List α) :=
  ⟨readItems item true, readItems_length_lt⟩

/-- Reads the members of an object after its opening brace. What has been read is finished when the
object has been closed. -/
def readObject {σ α : Type} (use : σ → String → MemberUse σ) (start : σ)
    (finish : σ → Except Cause α) (s : List Char) : Except Fault (α × List Char) :=
  match readMembers use start true s with
  | .error fault => .error fault
  | .ok (state, rest) =>
    match finish state with
    | .error cause => .error (.before cause rest)
    | .ok a => .ok (a, rest)

theorem readObject_length_lt {σ α : Type} {use : σ → String → MemberUse σ} {start : σ}
    {finish : σ → Except Cause α} {s : List Char} {a : α} {rest : List Char}
    (h : readObject use start finish s = .ok (a, rest)) : rest.length < s.length := by
  unfold readObject at h
  split at h
  · cases h
  · next read =>
    split at h
    · cases h
    · cases h; exact readMembers_length_lt read

/-- The reader of the members of an object after its opening brace. -/
def membersReader {σ α : Type} (use : σ → String → MemberUse σ) (start : σ)
    (finish : σ → Except Cause α) : Reader α :=
  ⟨readObject use start finish, readObject_length_lt⟩

/-! ## Records as lists -/

/-- Reads the end of a list that holds no more items. -/
def readRowEnd (s : List Char) : Except Fault (Unit × List Char) :=
  match skipSpace s with
  | [] => .error (.before .endInList [])
  | c :: rest =>
    if c = ']' then .ok ((), rest)
    else if c = ',' then
      if (skipSpace rest).head? = some ']' then .error (.within .trailingComma (skipSpace rest))
      else .error (.within .trailingCharacters (skipSpace rest))
    else .error (.within .trailingCharacters (c :: rest))

theorem readRowEnd_length_lt {s rest : List Char} {u : Unit}
    (h : readRowEnd s = .ok (u, rest)) : rest.length < s.length := by
  unfold readRowEnd at h
  have length := length_skipSpace_le s
  split at h
  · cases h
  · next c after eq =>
    rw [eq, List.length_cons] at length
    split at h
    · cases h; omega
    · split at h
      · split at h <;> cases h
      · cases h

/-- The reader of the end of a list that holds no more items. -/
def rowEnd : Reader Unit :=
  ⟨readRowEnd, readRowEnd_length_lt⟩

/-- Reads one item of a list and those after it. If the list ends before the item, `absent` tells
what stands for it. -/
def readRow {α β : Type} (item : Reader α) (absent : Except Cause α) (rest : Bool → Reader β)
    (first : Bool) (s : List Char) : Except Fault ((α × β) × List Char) :=
  match nextItem first s with
  | .error fault => .error fault
  | .ok (.close after) =>
    match absent with
    | .error cause => .error (.before cause after)
    | .ok a =>
      -- the closing bracket is left for the fields after this one
      match (rest first).run s with
      | .error fault => .error fault
      | .ok (b, after) => .ok ((a, b), after)
  | .ok (.item at_) =>
    match item.run at_ with
    | .error fault => .error fault
    | .ok (a, after) =>
      match (rest false).run after with
      | .error fault => .error fault
      | .ok (b, after) => .ok ((a, b), after)

theorem readRow_length_lt {α β : Type} {item : Reader α} {absent : Except Cause α}
    {rest : Bool → Reader β} {first : Bool} {s : List Char} {row : α × β} {after : List Char}
    (h : readRow item absent rest first s = .ok (row, after)) : after.length < s.length := by
  unfold readRow at h
  split at h
  · cases h
  · split at h
    · cases h
    · split at h
      · cases h
      · next read => cases h; exact (rest first).shorter read
  · next next =>
    split at h
    · cases h
    · next read =>
      split at h
      · cases h
      · next tail =>
        cases h
        have := nextItem_item_length_le next
        have := item.shorter read
        have := (rest false).shorter tail
        omega

/-- The reader of one item of a list and of those after it. -/
def rowCons {α β : Type} (item : Reader α) (absent : Except Cause α) (rest : Bool → Reader β)
    (first : Bool) : Reader (α × β) :=
  ⟨readRow item absent rest first, readRow_length_lt⟩

/-! ## Records as objects -/

/-- What has been read of each field so far. -/
def Fields.Slots : {β : Type} → Fields β → Type
  | _, .nil => Unit
  | _, .cons (α := α) _ rest => Option α × rest.Slots

/-- Nothing has been read yet. -/
def Fields.start : {β : Type} → (fields : Fields β) → fields.Slots
  | _, .nil => ()
  | _, .cons _ rest => (none, rest.start)

/-- What stands for a field that is no member of an object. -/
def Field.absent : {α : Type} → Field α → Except Cause α
  | _, .required name _ => .error (.missingField name.wire)
  | _, .optional _ _ => .ok none
  | _, .defaulted _ _ default => .ok default.value

/-- What stands for a field that a list is too short to hold. -/
def Field.absentFromRow : {α : Type} → Field α → Cause → Except Cause α
  | _, .required _ _, cause => .error cause
  | _, .optional _ _, cause => .error cause
  | _, .defaulted _ _ default, _ => .ok default.value

/-- The row of fields of an object that has been read; of several missing fields the first is
reported. -/
def Fields.finish : {β : Type} → (fields : Fields β) → fields.Slots → Except Cause β
  | _, .nil, _ => .ok ()
  | _, .cons field rest, slots =>
    match slots.1 with
    | some a => (rest.finish slots.2).map fun b => (a, b)
    | none =>
      match field.absent with
      | .error cause => .error cause
      | .ok a => (rest.finish slots.2).map fun b => (a, b)

/-- Reads a value that may be null. -/
def readNullable {α : Type} (reader : Reader α) (s : List Char) :
    Except Fault (Option α × List Char) :=
  match skipSpace s with
  | [] => (reader.map some).run s
  | c :: rest =>
    if c = 'n' then
      match readLiteral ['u', 'l', 'l'] rest with
      | .error fault => .error fault
      | .ok rest => .ok (none, rest)
    else (reader.map some).run s

theorem readNullable_length_lt {α : Type} {reader : Reader α} {s : List Char} {a : Option α}
    {rest : List Char} (h : readNullable reader s = .ok (a, rest)) : rest.length < s.length := by
  unfold readNullable at h
  have length := length_skipSpace_le s
  split at h
  · exact (reader.map some).shorter h
  · next c after eq =>
    rw [eq, List.length_cons] at length
    split at h
    · split at h
      · cases h
      · next read => cases h; have := readLiteral_length_le read; omega
    · exact (reader.map some).shorter h

/-- The reader of a value that may be null. -/
def nullableReader {α : Type} (reader : Reader α) : Reader (Option α) :=
  ⟨readNullable reader, readNullable_length_lt⟩

/-- The reader of the members of an object into a map of texts. -/
def textsReader : Reader (NameMap String) :=
  membersReader
    (fun map name => .take ((scalarReader .text pickText).map (NameMap.insert map name)))
    NameMap.empty .ok

/-! ## Models -/

mutual

/-- The reader of the values of a shape where `depth` more brackets may be opened. -/
def Shape.reader : {α : Type} → Shape α → Nat → Reader α
  | _, .text, _ => scalarReader .text pickText
  | _, .flag, _ => scalarReader .flag pickFlag
  | _, .unsigned, _ => scalarReader .unsigned pickUnsigned
  | _, .signed, _ => scalarReader .signed pickSigned
  | _, .date, _ => scalarReader .date pickDate
  | _, .json, depth => valueReader depth
  | _, .texts, depth =>
    bracketReader .map depth fun
      | .curly => some textsReader
      | .square => none
  | _, .list item, depth =>
    bracketReader .sequence depth fun
      | .square => some (itemsReader (item.reader (depth - 1)))
      | .curly => none
  | _, .record model fields form, depth =>
    bracketReader (.model model) depth fun
      | .curly =>
        some (membersReader (fields.use (depth - 1)) fields.start
          fun slots => (fields.finish slots).map form.ofFields)
      | .square =>
        some ((fields.row (.tooFewItems · model fields.size) (depth - 1) 0 true).map
          form.ofFields)
  | _, .openRecord model fields _ form, depth =>
    bracketReader (.model model) depth fun
      | .curly =>
        some (membersReader
          (fun (state : fields.Slots × NameMap Json) name =>
            match fields.use (depth - 1) state.1 name with
            | .pass =>
              .take ((valueReader (depth - 1)).map fun json =>
                (state.1, state.2.insert name json))
            | use => use.map fun slots => (slots, state.2))
          (fields.start, NameMap.empty)
          fun state => (fields.finish state.1).map fun row => form.ofFields (row, state.2))
      | .square => none

/-- What is done with a member of an object: the value of a field is read once, all else is passed
over. -/
def Fields.use : {β : Type} → (fields : Fields β) → Nat → fields.Slots → String →
    MemberUse fields.Slots
  | _, .nil, _, _, _ => .pass
  | _, .cons field rest, depth, slots, name =>
    if field.name.wire = name then
      match slots.1 with
      | some _ => .repeated
      | none => .take ((field.reader depth).map fun a => (some a, slots.2))
    else (rest.use depth slots.2 name).map fun others => (slots.1, others)

/-- The reader of the fields as items of a list, from the item with the given number on. -/
def Fields.row : {β : Type} → Fields β → (Nat → Cause) → Nat → Nat → Bool → Reader β
  | _, .nil, _, _, _, _ => rowEnd
  | _, .cons field rest, tooFew, depth, index, first =>
    rowCons (field.reader depth) (field.absentFromRow (tooFew index))
      (rest.row tooFew depth (index + 1)) first

/-- The reader of the value of a field. -/
def Field.reader : {α : Type} → Field α → Nat → Reader α
  | _, .required _ shape, depth => shape.reader depth
  | _, .optional _ shape, depth => nullableReader (shape.reader depth)
  | _, .defaulted _ shape _, depth => shape.reader depth

end

/-- Decodes a text that holds one value and nothing else but blanks. -/
def Shape.decode {α : Type} (shape : Shape α) (s : List Char) : Except Fault α :=
  match (shape.reader depthLimit).run s with
  | .error fault => .error fault
  | .ok (a, rest) =>
    match skipSpace rest with
    | [] => .ok a
    | c :: rest => .error (.within .trailingCharacters (c :: rest))

end EntitlementClient.Schema
