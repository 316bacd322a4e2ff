/-
Readers of JSON text: what takes a value from the start of a text and leaves a shorter rest.
Scalars, lists and objects are read here for any kind of content, and values of every kind to a
fixed depth.
-/
import EntitlementClient.Json.Skip

namespace EntitlementClient.Json

/-- A reader takes a value from the start of a text and leaves the rest, which is shorter. -/
structure Reader (α : Type) where
  run : List Char → Except Fault (α × List Char)
  shorter : ∀ {s : List Char} {a : α} {rest : List Char},
    run s = .ok (a, rest) → rest.length < s.length

namespace Reader

/-- Reads as a reader does, and gives another value. -/
def runMap {α β : Type} (f : α → β) (reader : Reader α) (s : List Char) :
    Except Fault (β × List Char) :=
  match reader.run s with
  | .error fault => .error fault
  | .ok (a, rest) => .ok (f a, rest)

theorem runMap_length_lt {α β : Type} {f : α → β} {reader : Reader α} {s : List Char} {b : β}
    {rest : List Char} (h : reader.runMap f s = .ok (b, rest)) : rest.length < s.length := by
  unfold runMap at h
  split at h
  · cases h
  · next read => cases h; exact reader.shorter read

/-- The reader of the same text that gives another value. -/
def map {α β : Type} (f : α → β) (reader : Reader α) : Reader β :=
  ⟨runMap f reader, runMap_length_lt⟩

end Reader

/-! ## Scalars -/

/-- Reads a value that is not bracketed. -/
def readScalar (s : List Char) : Except Fault (Scalar × List Char) :=
  match s with
  | [] => .error (.before .endInValue [])
  | c :: rest =>
    if c = 'n' then (readLiteral ['u', 'l', 'l'] rest).map fun rest => (.null, rest)
    else if c = 't' then (readLiteral ['r', 'u', 'e'] rest).map fun rest => (.bool true, rest)
    else if c = 'f' then
      (readLiteral ['a', 'l', 's', 'e'] rest).map fun rest => (.bool false, rest)
    else if c = '-' ∨ c.isDigit then (readNumber s).map fun (n, rest) => (.number n, rest)
    else if c = '"' then
      (readString rest).map fun (chars, rest) => (.text (String.ofList chars), rest)
    else .error (.within .expectedValue s)

theorem readScalar_length_lt {s rest : List Char} {value : Scalar}
    (h : readScalar s = .ok (value, rest)) : rest.length < s.length := by
  unfold readScalar at h
  split at h
  · cases h
  · next c s =>
    have literal {letters : List Char} {x : Scalar}
        (h : (readLiteral letters s).map (fun rest => (x, rest)) = .ok (value, rest)) :
        rest.length < (c :: s).length := by
      cases read : readLiteral letters s with
      | error fault => rw [read] at h; cases h
      | ok after =>
        rw [read] at h
        cases h
        exact Nat.lt_succ_of_le (readLiteral_length_le read)
    split at h
    · exact literal h
    split at h
    · exact literal h
    split at h
    · exact literal h
    split at h
    · cases read : readNumber (c :: s) with
      | error fault => rw [read] at h; cases h
      | ok pair =>
        obtain ⟨n, after⟩ := pair
        rw [read] at h
        cases h
        exact readNumber_length_lt read
    split at h
    · cases read : readString s with
      | error fault => rw [read] at h; cases h
      | ok pair =>
        obtain ⟨chars, after⟩ := pair
        rw [read] at h
        cases h
        exact Nat.lt_succ_of_lt (readString_length_lt read)
    · cases h

/-- The fault of a value of another kind than is wanted. A scalar is read to its end first; a
bracket is not entered. -/
def mismatch (expected : Expected) (s : List Char) : Fault :=
  match s with
  | [] => .before .endInValue []
  | c :: _ =>
    -- only a scalar is used up before its kind is judged
    if c = '[' then .before (.wrongKind .sequence expected) s
    else if c = '{' then .before (.wrongKind .map expected) s
    else match readScalar s with
      | .error fault => fault
      | .ok (value, rest) => .before (.wrongKind (.scalar value) expected) rest

/-- The character at the start of a text, if it opens a bracket. -/
def opening? (s : List Char) : Option Bracket :=
  match s with
  | [] => none
  | c :: _ => if c = '[' then some .square else if c = '{' then some .curly else none

/-- Reads a scalar that `pick` accepts. -/
def readPicked {α : Type} (expected : Expected) (pick : Scalar → Except Cause α) (s : List Char) :
    Except Fault (α × List Char) :=
  match opening? (skipSpace s) with
  | some _ => .error (mismatch expected (skipSpace s))
  | none =>
    match readScalar (skipSpace s) with
    | .error fault => .error fault
    | .ok (value, rest) =>
      match pick value with
      | .ok a => .ok (a, rest)
      | .error cause => .error (.before cause rest)

theorem readPicked_length_lt {α : Type} {expected : Expected} {pick : Scalar → Except Cause α}
    {s : List Char} {a : α} {rest : List Char} (h : readPicked expected pick s = .ok (a, rest)) :
    rest.length < s.length := by
  unfold readPicked at h
  have := length_skipSpace_le s
  split at h
  · cases h
  · split at h
    · cases h
    · next read =>
      have := readScalar_length_lt read
      split at h
      · cases h; omega
      · cases h

/-- The reader of a scalar that `pick` accepts. -/
def scalarReader {α : Type} (expected : Expected) (pick : Scalar → Except Cause α) : Reader α :=
  ⟨readPicked expected pick, readPicked_length_lt⟩

/-! ## Lists -/

/-- What comes next inside a bracket: an item, and the text at it, or the end, and the text after
the closing bracket. -/
inductive Next
  | item (at_ : List Char)
  | close (rest : List Char)

/-- Goes to the next item of a list, past the comma unless the item is the first. -/
def nextItem (first : Bool) (s : List Char) : Except Fault Next :=
  match skipSpace s with
  | [] => .error (.before .endInList [])
  | c :: rest =>
    if c = ']' then .ok (.close rest)
    else if first then .ok (.item (c :: rest))
    else if c = ',' then
      match skipSpace rest with
      | [] => .error (.before .endInValue [])
      | c :: rest =>
        if c = ']' then .error (.within .trailingComma (c :: rest))
        else .ok (.item (c :: rest))
    else .error (.within .expectedCommaOrBracket (c :: rest))

theorem nextItem_item_length_le {first : Bool} {s at_ : List Char}
    (h : nextItem first s = .ok (.item at_)) : at_.length ≤ s.length := by
  unfold nextItem at h
  have outer := length_skipSpace_le s
  split at h
  · cases h
  · next c rest eq =>
    rw [eq, List.length_cons] at outer
    have inner := length_skipSpace_le rest
    grind

theorem nextItem_close_length_lt {first : Bool} {s rest : List Char}
    (h : nextItem first s = .ok (.close rest)) : rest.length < s.length := by
  unfold nextItem at h
  have outer := length_skipSpace_le s
  split at h
  · cases h
  · next c after eq =>
    rw [eq, List.length_cons] at outer
    grind

/-- Reads the items of a list after its opening bracket, up to and with the closing one. -/
def readItems {α : Type} (item : Reader α) (first : Bool) (s : List Char) :
    Except Fault (List α × List Char) :=
  match _next : nextItem first s with
  | .error fault => .error fault
  | .ok (.close rest) => .ok ([], rest)
  | .ok (.item at_) =>
    match _item : item.run at_ with
    | .error fault => .error fault
    | .ok (a, after) =>
      match readItems item false after with
      | .error fault => .error fault
      | .ok (items, rest) => .ok (a :: items, rest)
termination_by s.length
decreasing_by
  have := nextItem_item_length_le _next
  have := item.shorter _item
  omega

theorem readItems_length_lt {α : Type} {item : Reader α} {first : Bool} {s rest : List Char}
    {items : List α} (h : readItems item first s = .ok (items, rest)) :
    rest.length < s.length := by
  fun_induction readItems item first s generalizing items rest with
  | case1 => cases h
  | case2 first s rest next => cases h; exact nextItem_close_length_lt next
  | case3 => cases h
  | case4 => cases h
  | case5 first s at_ next a after read items' rest' tail ih =>
    cases h
    have := nextItem_item_length_le next
    have := item.shorter read
    have := ih tail
    omega

/-! ## Objects -/

/-- Goes to the name of the next member of an object, past the comma unless the member is the
first; the item is the text after the opening quote of the name. -/
def nextMember (first : Bool) (s : List Char) : Except Fault Next :=
  match skipSpace s with
  | [] => .error (.before .endInObject [])
  | c :: rest =>
    if c = '}' then .ok (.close rest)
    else if first then
      if c = '"' then .ok (.item rest) else .error (.within .nameNotString (c :: rest))
    else if c = ',' then
      match skipSpace rest with
      | [] => .error (.before .endInValue [])
      | c :: rest =>
        if c = '"' then .ok (.item rest)
        else if c = '}' then .error (.within .trailingComma (c :: rest))
        else .error (.within .nameNotString (c :: rest))
    else .error (.within .expectedCommaOrBrace (c :: rest))

theorem nextMember_item_length_lt {first : Bool} {s at_ : List Char}
    (h : nextMember first s = .ok (.item at_)) : at_.length < s.length := by
  unfold nextMember at h
  have outer := length_skipSpace_le s
  split at h
  · cases h
  · next c rest eq =>
    rw [eq, List.length_cons] at outer
    have inner := length_skipSpace_le rest
    grind

theorem nextMember_close_length_lt {first : Bool} {s rest : List Char}
    (h : nextMember first s = .ok (.close rest)) : rest.length < s.length := by
  unfold nextMember at h
  have outer := length_skipSpace_le s
  split at h
  · cases h
  · next c after eq =>
    rw [eq, List.length_cons] at outer
    grind

/-- What is done with the value of a member: it is read, and gives the new state, or passed over,
or the member must not stand here because its name has been read before. -/
inductive MemberUse (σ : Type)
  | take (reader : Reader σ)
  | pass
  | repeated

/-- What is done with a member, told of a part of the state. -/
def MemberUse.map {σ τ : Type} (f : σ → τ) : MemberUse σ → MemberUse τ
  | .take reader => .take (reader.map f)
  | .pass => .pass
  | .repeated => .repeated

/-- Where a repeated name is reported: after the name and the blanks behind it, and after the brace
if the object ends there. -/
def afterRepeated (s : List Char) : List Char :=
  match skipSpace s with
  | [] => []
  | c :: rest => if c = '}' then rest else c :: rest

/-- Reads the members of an object after its opening brace, up to and with the closing one. -/
def readMembers {σ : Type} (use : σ → String → MemberUse σ) (state : σ) (first : Bool)
    (s : List Char) : Except Fault (σ × List Char) :=
  match _next : nextMember first s with
  | .error fault => .error fault
  | .ok (.close rest) => .ok (state, rest)
  | .ok (.item at_) =>
    match _name : readString at_ with
    | .error fault => .error fault
    | .ok (name, afterName) =>
      match use state (String.ofList name) with
      | .repeated =>
        -- the place is found only once the reader looks for the end of the object
        .error (.before (.duplicateField (String.ofList name)) (afterRepeated afterName))
      | .pass =>
        match _colon : readColon afterName with
        | .error fault => .error fault
        | .ok value =>
          match _skip : skip value with
          | .error fault => .error fault
          | .ok after => readMembers use state false after
      | .take reader =>
        match _colon : readColon afterName with
        | .error fault => .error fault
        | .ok value =>
          match _value : reader.run value with
          | .error fault => .error fault
          | .ok (state, after) => readMembers use state false after
termination_by s.length
decreasing_by
  · have := nextMember_item_length_lt _next
    have := readString_length_lt _name
    have := readColon_length_lt _colon
    have := skip_length_lt _skip
    omega
  · have := nextMember_item_length_lt _next
    have := readString_length_lt _name
    have := readColon_length_lt _colon
    have := reader.shorter _value
    omega

theorem readMembers_length_lt {σ : Type} {use : σ → String → MemberUse σ} {state final : σ}
    {first : Bool} {s rest : List Char} (h : readMembers use state first s = .ok (final, rest)) :
    rest.length < s.length := by
  fun_induction readMembers use state first s with
  | case1 => cases h
  | case2 _ _ _ _ next => cases h; exact nextMember_close_length_lt next
  | case3 => cases h
  | case4 => cases h
  | case5 => cases h
  | case6 => cases h
  | case7 _ _ _ _ next _ _ name _ _ colon _ skipped ih =>
    have := nextMember_item_length_lt next
    have := readString_length_lt name
    have := readColon_length_lt colon
    have := skip_length_lt skipped
    have := ih h
    omega
  | case8 => cases h
  | case9 => cases h
  | case10 _ _ _ _ next _ _ name reader _ _ colon _ _ value ih =>
    have := nextMember_item_length_lt next
    have := readString_length_lt name
    have := readColon_length_lt colon
    have := reader.shorter value
    have := ih h
    omega

/-! ## Values of every kind -/

/-- How many brackets may be open at once. -/
def depthLimit : Nat := 127

/-- The value of a scalar. -/
def Scalar.json : Scalar → Json
  | .null => .null
  | .bool b => .bool b
  | .number n => .number n
  | .text s => .text s

/-- Reads a value with the reader of the values inside its brackets; without one no bracket may be
opened. -/
def readValue (inner : Option (Reader Json)) (s : List Char) : Except Fault (Json × List Char) :=
  match opening? (skipSpace s), inner with
  | some _, none => .error (.within .tooDeep (skipSpace s))
  | some .square, some inner =>
    match readItems inner true ((skipSpace s).drop 1) with
    | .error fault => .error fault
    | .ok (items, rest) => .ok (.array items, rest)
  | some .curly, some inner =>
    match readMembers (fun map name => .take (inner.map (NameMap.insert map name)))
        NameMap.empty true ((skipSpace s).drop 1) with
    | .error fault => .error fault
    | .ok (members, rest) => .ok (.object members.entries, rest)
  | none, _ =>
    match readScalar (skipSpace s) with
    | .error fault => .error fault
    | .ok (value, rest) => .ok (value.json, rest)

theorem readValue_length_lt {inner : Option (Reader Json)} {s : List Char} {json : Json}
    {rest : List Char} (h : readValue inner s = .ok (json, rest)) : rest.length < s.length := by
  unfold readValue at h
  have := length_skipSpace_le s
  have := List.length_drop (i := 1) (l := skipSpace s)
  split at h
  · cases h
  · split at h
    · cases h
    · next read => cases h; have := readItems_length_lt read; omega
  · split at h
    · cases h
    · next read => cases h; have := readMembers_length_lt read; omega
  · split at h
    · cases h
    · next read => cases h; have := readScalar_length_lt read; omega

/-- The reader of values with the reader of the values inside their brackets. -/
def jsonReader (inner : Option (Reader Json)) : Reader Json :=
  ⟨readValue inner, readValue_length_lt⟩

/-- The reader of values that open at most `depth` brackets at once. -/
def valueReader : Nat → Reader Json
  | 0 => jsonReader none
  | depth + 1 => jsonReader (some (valueReader depth))

end EntitlementClient.Json
