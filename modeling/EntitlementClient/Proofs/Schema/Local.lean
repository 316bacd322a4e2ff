/-
What is decoded by a schema depends on the value alone, as it is written: what a record is made of its members,
and a list of its items.
-/
import EntitlementClient.Proofs.Schema.Decoded
import EntitlementClient.Proofs.Schema.Written

namespace EntitlementClient

open EntitlementClient.Json

namespace Schema

variable {α β : Type}

/-! ## Brackets -/

theorem means_bracketReader {expected : Expected} {d : Nat} {inside : Bracket → Option (Reader α)}
    {square : List Source → Option α} {curly : List (Key × Source) → Option α}
    (items : d ≠ 0 → ∀ (before : Blanks) items tail,
      ((inside .square).bind fun reader =>
        (reader.run (before.chars ++ (Source.itemsText true items ++ ']' :: tail))).toOption) =
          (square items).map fun a => (a, tail))
    (members : d ≠ 0 → ∀ (before : Blanks) members tail,
      ((inside .curly).bind fun reader =>
        (reader.run (before.chars ++ (Source.membersText true members ++ '}' :: tail))).toOption) =
          (curly members).map fun a => (a, tail)) :
    (bracketReader expected d inside).Means (Source.ofBrackets d square curly) := by
  intro before x tail ends
  have space := Source.skipSpace_bare before x tail
  cases x with
  | scalar pad chars h =>
    have opens : opening? (skipSpace (before.chars ++ (chars ++ tail))) = none :=
      (congrArg opening? space).trans (h.opening? tail)
    simp only [bracketReader, readBracket, Source.bare, opens]
    rfl
  | array pad blanks list =>
    rw [Source.bare_array_append] at space ⊢
    cases d with
    | zero =>
      simp only [bracketReader, readBracket, space, opening?_cons_square, Option.bind_some, if_true]
      cases inside .square <;> rfl
    | succ d => exact (readBracket_start .square space).trans (items d.succ_ne_zero blanks list tail)
  | object pad blanks list =>
    rw [Source.bare_object_append] at space ⊢
    cases d with
    | zero =>
      simp only [bracketReader, readBracket, space, opening?_cons_curly, Option.bind_some, if_true]
      cases inside .curly <;> rfl
    | succ d => exact (readBracket_start .curly space).trans (members d.succ_ne_zero blanks list tail)

/-! ## Null -/

/-- No other value than null begins with its first letter. -/
theorem eq_null_of_bare {x : Source} {s : List Char} (h : x.bare = 'n' :: s) : s = ['u', 'l', 'l'] := by
  cases x with
  | array pad inside items => cases h
  | object pad inside members => cases h
  | scalar pad chars isScalar =>
    rw [Source.bare] at h
    subst h
    cases isScalar with
    | nullLiteral => rfl
    | number numeral =>
      obtain ⟨c, rest, eq, start⟩ := numeral.exists_eq_cons
      cases eq
      exact absurd rfl (numeralStart_ne start).2.1

/-- What a reader of values that may be null reads of a value. -/
def nullable? (reader : Reader α) (x : Source) : Option (Option α) :=
  if x.bare = ['n', 'u', 'l', 'l'] then some none else (reader.value? x).map some

theorem means_nullableReader {reader : Reader α} (h : reader.Local) :
    (nullableReader reader).Means (nullable? reader) := by
  intro before x tail ends
  have space := Source.skipSpace_bare before x tail
  have value (ne : x.bare ≠ ['n', 'u', 'l', 'l']) :
      ((reader.map some).run (before.chars ++ (x.bare ++ tail))).toOption =
      (nullable? reader x).map fun a => (a, tail) := by
    rw [nullable?, if_neg ne, ← Reader.value?_map]
    exact h.map some before x tail ends
  simp only [nullableReader, readNullable, space]
  obtain ⟨c, rest, eq, -⟩ := x.startsValue_bare
  simp only [eq, List.cons_append] at value ⊢
  split
  · next n =>
    rw [n] at eq
    obtain rfl := eq_null_of_bare eq
    rw [readLiteral_append, nullable?, if_pos eq]
    rfl
  · next ne => exact value fun null => ne (List.cons.inj null).1

/-! ## Fields as items of a list -/

/-- The row of fields that the items of a list are. -/
def Fields.ofList? : {β : Type} → Fields β → Nat → List Source → Option β
  | _, .nil, _, [] => some ()
  | _, .nil, _, _ :: _ => none
  | _, .cons field rest, d, [] => field.missingFromRow.bind fun a => (rest.ofList? d []).map fun b => (a, b)
  | _, .cons field rest, d, x :: items =>
    ((field.reader d).value? x).bind fun a => (rest.ofList? d items).map fun b => (a, b)

theorem toOption_readRowEnd_source (d : Nat) (first : Bool) (before : Blanks) (items : List Source) (tail : List Char) :
    (readRowEnd (before.chars ++ (Source.itemsText first items ++ ']' :: tail))).toOption =
      (Fields.nil.ofList? d items).map fun row => (row, tail) := by
  unfold readRowEnd
  rw [skipSpace_blanks]
  cases items with
  | nil => rw [Source.itemsText, List.nil_append, skipSpace_eq_self (by decide)]; rfl
  | cons x items =>
    rw [Source.itemsText_cons_append]
    cases first with
    | true =>
      obtain ⟨c, rest, eq, -, ne⟩ := x.startsValue_bare.append
        (x.pad.after.chars ++ (Source.itemsText false items ++ ']' :: tail))
      rw [lead, if_pos rfl, Source.skipSpace_bare, eq]
      simp only [if_neg ne]
      split
      · split <;> rfl
      · rfl
    | false =>
      rw [lead, if_neg (by decide), skipSpace_eq_self (by decide)]
      simp only [if_neg (show ',' ≠ ']' by decide), if_true]
      split <;> rfl

/-! ## Models -/

/-- The row of fields that the members of an object are. -/
def Fields.ofObject? (fields : Fields β) (d : Nat) (members : List (Key × Source)) : Option β :=
  (members.foldlM (memberStep (fields.use d)) fields.start).bind fun slots => (fields.finish slots).toOption

/-- The row of fields that the members of an object are, and the members that are no fields. -/
def Fields.ofOpen? (fields : Fields β) (d : Nat) (members : List (Key × Source)) : Option (β × NameMap Json) :=
  (members.foldlM (memberStep (fields.openUse d)) (fields.start, .empty)).bind fun state =>
    (fields.finish state.1).toOption.map fun row => (row, state.2)

/-- Whether every value of a field is read as when it stands alone. -/
def Fields.Local (fields : Fields β) : Prop :=
  ∀ d slots name reader, fields.use d slots name = .take reader → reader.Local

/-- Whether the fields are read as items of a list one by one. -/
def Fields.Listed (fields : Fields β) : Prop :=
  ∀ tooFew d index first (before : Blanks) items tail,
    ((fields.row tooFew d index first).run (before.chars ++ (Source.itemsText first items ++ ']' :: tail))).toOption =
      (fields.ofList? d items).map fun row => (row, tail)

theorem Shape.means_list {item : Shape α} {d : Nat} (h : (item.reader (d - 1)).Local) :
    ((Shape.list item).reader d).Means (Source.ofBrackets d (·.mapM (item.reader (d - 1)).value?) fun _ => none) := by
  rw [Shape.reader]
  exact means_bracketReader (fun _ before items tail => toOption_readItems h items true before tail)
    fun _ _ _ _ => rfl

theorem Shape.means_record {fields : Fields β} (isLocal : fields.Local) (listed : fields.Listed) (model : String)
    (form : Form α β) (d : Nat) :
    ((Shape.record model fields form).reader d).Means
      (Source.ofBrackets d (fun items => (fields.ofList? (d - 1) items).map form.ofFields)
        fun members => (fields.ofObject? (d - 1) members).map form.ofFields) := by
  rw [Shape.reader]
  refine means_bracketReader (fun _ before items tail => ?_) fun _ before members tail => ?_
  · rw [Option.bind_some, toOption_runMap, listed]
    cases fields.ofList? (d - 1) items <;> rfl
  · simp only [Option.bind_some, membersReader, toOption_readObject]
    rw [toOption_readMembers (isLocal (d - 1)), Fields.ofObject?]
    cases members.foldlM (memberStep (fields.use (d - 1))) fields.start with
    | none => rfl
    | some slots => simp [toOption_map, Function.comp_def]

theorem Fields.Local.openUse {fields : Fields β} (isLocal : fields.Local) {d : Nat}
    {state : fields.Slots × NameMap Json} {name : String} {reader : Reader (fields.Slots × NameMap Json)}
    (used : fields.openUse d state name = .take reader) : reader.Local := by
  unfold Fields.openUse at used
  split at used
  · cases used
    exact (means_valueReader d).isLocal.map _
  · obtain ⟨inner, taken, rfl⟩ := MemberUse.exists_of_map_eq_take used
    exact (isLocal d state.1 name inner taken).map _

theorem Shape.means_openRecord {fields : Fields β} (isLocal : fields.Local) (model extra : String)
    (form : Form α (β × NameMap Json)) (d : Nat) :
    ((Shape.openRecord model fields extra form).reader d).Means
      (Source.ofBrackets d (fun _ => none) fun members => (fields.ofOpen? (d - 1) members).map form.ofFields) := by
  rw [Shape.reader]
  refine means_bracketReader (fun _ _ _ _ => rfl) fun _ before members tail => ?_
  simp only [Option.bind_some, membersReader, toOption_readObject]
  show ((readMembers (fields.openUse (d - 1)) (fields.start, .empty) true _).toOption.bind _) = _
  rw [toOption_readMembers (fun _ _ _ used => isLocal.openUse used), Fields.ofOpen?]
  cases members.foldlM (memberStep (fields.openUse (d - 1))) (fields.start, .empty) with
  | none => rfl
  | some state =>
    simp only [Option.map_some, Option.bind_some, toOption_map, Option.map_map]
    rfl

/-- The texts of an object are put into a map one by one. -/
def textsUse (map : NameMap String) (name : String) : MemberUse (NameMap String) :=
  .take ((scalarReader .text pickText).map (NameMap.insert map name))

theorem Shape.means_texts (d : Nat) :
    (Shape.texts.reader d).Means (Source.ofBrackets d (fun _ => none) (·.foldlM (memberStep textsUse) .empty)) := by
  rw [Shape.reader]
  refine means_bracketReader (fun _ _ _ _ => rfl) fun _ before members tail => ?_
  have taken (map : NameMap String) (name : String) (reader : Reader (NameMap String))
      (used : textsUse map name = .take reader) : reader.Local := by
    cases used
    exact (means_scalarReader .text pickText).isLocal.map _
  simp only [Option.bind_some, textsReader, membersReader, toOption_readObject]
  show ((readMembers textsUse .empty true _).toOption.bind _) = _
  rw [toOption_readMembers taken]
  cases members.foldlM (memberStep textsUse) .empty <;> rfl

mutual

/-- What is decoded of a value does not depend on what stands around it. -/
theorem Shape.isLocal : {α : Type} → (shape : Shape α) → (d : Nat) → (shape.reader d).Local
  | _, .text, _ => (means_scalarReader .text pickText).isLocal
  | _, .flag, _ => (means_scalarReader .flag pickFlag).isLocal
  | _, .unsigned, _ => (means_scalarReader .unsigned pickUnsigned).isLocal
  | _, .signed, _ => (means_scalarReader .signed pickSigned).isLocal
  | _, .date, _ => (means_scalarReader .date pickDate).isLocal
  | _, .json, d => (means_valueReader d).isLocal
  | _, .texts, d => (Shape.means_texts d).isLocal
  | _, .list item, d => (Shape.means_list (item.isLocal (d - 1))).isLocal
  | _, .record model fields form, d => (Shape.means_record fields.isLocal fields.isListed model form d).isLocal
  | _, .openRecord model fields extra form, d => (Shape.means_openRecord fields.isLocal model extra form d).isLocal

theorem Fields.isLocal : {β : Type} → (fields : Fields β) → fields.Local
  | _, .nil => fun _ _ _ _ used => by
    rw [Fields.use] at used
    cases used
  | _, .cons field rest => fun d slots name reader used => by
    rw [Fields.use] at used
    split at used
    · split at used
      · cases used
      · cases used
        exact (field.isLocal d).map _
    · obtain ⟨inner, taken, rfl⟩ := MemberUse.exists_of_map_eq_take used
      exact (rest.isLocal d slots.2 name inner taken).map _

theorem Fields.isListed : {β : Type} → (fields : Fields β) → fields.Listed
  | _, .nil => fun _ d _ first before items tail => by
    rw [Fields.row]
    exact toOption_readRowEnd_source d first before items tail
  | _, .cons field rest => fun tooFew d index first before items tail => by
    rw [Fields.row]
    cases items with
    | nil =>
      refine (toOption_readRow_close (nextItem_closing first before tail)).trans ?_
      have others := rest.isListed tooFew d (index + 1) first before [] tail
      rw [Source.itemsText, List.nil_append] at others
      rw [field.toOption_absentFromRow, others, Fields.ofList?]
      cases field.missingFromRow with
      | none => rfl
      | some a => cases rest.ofList? d [] <;> rfl
    | cons x items =>
      rw [Source.itemsText_cons_append]
      refine (toOption_readRow_item (nextItem_source first before _ x _)).trans ?_
      rw [(field.isLocal d).run_bare x (Source.endsNumeral_itemsText _ _ _), Fields.ofList?]
      cases (field.reader d).value? x with
      | none => rfl
      | some a =>
        simp only [Option.map_some, Option.bind_some, rest.isListed tooFew d (index + 1) false]
        cases rest.ofList? d items <;> rfl

theorem Field.isLocal : {α : Type} → (field : Field α) → (d : Nat) → (field.reader d).Local
  | _, .required _ shape, d => by
    rw [Field.reader]
    exact shape.isLocal d
  | _, .optional _ shape, d => by
    rw [Field.reader]
    exact (means_nullableReader (shape.isLocal d)).isLocal
  | _, .defaulted _ shape _, d => by
    rw [Field.reader]
    exact shape.isLocal d

end

end Schema

end EntitlementClient
