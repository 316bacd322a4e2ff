/-
Values within a value: at a place that the schemas lead to, values of one schema stand in values of another. What
is read of the whole is told by what is read at the place.
-/
import EntitlementClient.Proofs.Schema.Extent
import EntitlementClient.Proofs.Schema.Placement

namespace EntitlementClient

open EntitlementClient.Json

namespace Schema

variable {α β γ : Type}

/-! ## The fields of a record -/

/-- Whether the values of a field are laid out by a schema, null apart. -/
inductive Field.Holds : {α : Type} → Field α → {γ : Type} → Shape γ → Prop
  | required {α : Type} (name : FieldName) (shape : Shape α) : (Field.required name shape).Holds shape
  | optional {α : Type} (name : FieldName) (shape : Shape α) : (Field.optional name shape).Holds shape
  | defaulted {α : Type} (name : FieldName) (shape : Shape α) (default : Default α) :
    (Field.defaulted name shape default).Holds shape

/-- Whether the field of a name is laid out by a schema. -/
inductive Fields.Has : {β : Type} → Fields β → String → {γ : Type} → Shape γ → Prop
  | head {α β γ : Type} {field : Field α} {shape : Shape γ} (own : field.Holds shape) (rest : Fields β) :
    (Fields.cons field rest).Has field.name.wire shape
  | tail {α β γ : Type} {field : Field α} {rest : Fields β} {name : String} {shape : Shape γ}
    (ne : field.name.wire ≠ name) (h : rest.Has name shape) : (Fields.cons field rest).Has name shape

/-- Whether the field at a place is laid out by a schema. -/
inductive Fields.HasAt : {β : Type} → Fields β → Nat → {γ : Type} → Shape γ → Prop
  | head {α β γ : Type} {field : Field α} {shape : Shape γ} (own : field.Holds shape) (rest : Fields β) :
    (Fields.cons field rest).HasAt 0 shape
  | tail {α β γ : Type} {rest : Fields β} {i : Nat} {shape : Shape γ} (field : Field α) (h : rest.HasAt i shape) :
    (Fields.cons field rest).HasAt (i + 1) shape

/-! ## Places -/

/-- Whether values of one schema stand in values of another one at a place, with `around` written around them. -/
inductive Shape.Within : {α γ : Type} → Shape α → Shape γ → (Source → Source) → Prop
  | here {α : Type} (shape : Shape α) : shape.Within shape fun x => x
  | member {α β γ δ : Type} {model : String} {fields : Fields β} {form : Form α β} {shape : Shape δ} {inner : Shape γ}
      {around : Source → Source} (pad : Pad) (inside : Blanks) (before after : List (Key × Source)) {key : Key}
      {name : String} (named : key.name? = some name) (has : fields.Has name shape)
      (value : shape.Within inner around) :
    (Shape.record model fields form).Within inner fun x => .object pad inside (before ++ (key, around x) :: after)
  | memberOpen {α β γ δ : Type} {model extra : String} {fields : Fields β} {form : Form α (β × NameMap Json)}
      {shape : Shape δ} {inner : Shape γ} {around : Source → Source} (pad : Pad) (inside : Blanks)
      (before after : List (Key × Source)) {key : Key} {name : String} (named : key.name? = some name)
      (has : fields.Has name shape) (value : shape.Within inner around) :
    (Shape.openRecord model fields extra form).Within inner fun x =>
      .object pad inside (before ++ (key, around x) :: after)
  | item {α γ : Type} {item : Shape α} {inner : Shape γ} {around : Source → Source} (pad : Pad) (inside : Blanks)
      (before after : List Source) (value : item.Within inner around) :
    (Shape.list item).Within inner fun x => .array pad inside (before ++ around x :: after)
  | rowItem {α β γ δ : Type} {model : String} {fields : Fields β} {form : Form α β} {shape : Shape δ} {inner : Shape γ}
      {around : Source → Source} (pad : Pad) (inside : Blanks) (before after : List Source)
      (has : fields.HasAt before.length shape) (value : shape.Within inner around) :
    (Shape.record model fields form).Within inner fun x => .array pad inside (before ++ around x :: after)

/-! ## What is read inside -/

/-- Whether what is read of values, null apart, is told by what another reader reads of them. -/
def Through (inner : Source → Option γ) (outer : Source → Option α) : Prop :=
  ∃ rest : γ → Option α, ∀ x, x.bare ≠ ['n', 'u', 'l', 'l'] → outer x = (inner x).bind rest

namespace Through

variable {σ : Type} {inner : Source → Option γ} {outer outer' : Source → Option α}

theorem refl (inner : Source → Option γ) : Through inner inner :=
  ⟨some, fun x _ => (Option.bind_fun_some (inner x)).symm⟩

theorem congr (h : Through inner outer) (same : ∀ x, outer' x = outer x) : Through inner outer' :=
  h.imp fun _ told x ne => (same x).trans (told x ne)

theorem none (inner : Source → Option γ) : Through inner fun _ => (Option.none : Option α) :=
  ⟨fun _ => .none, fun x _ => by cases inner x <;> rfl⟩

theorem bind (h : Through inner outer) (f : α → Option β) : Through inner fun x => (outer x).bind f := by
  obtain ⟨rest, told⟩ := h
  refine ⟨fun c => (rest c).bind f, fun x ne => ?_⟩
  show (outer x).bind f = _
  rw [told x ne, Option.bind_assoc]

theorem map (h : Through inner outer) (f : α → β) : Through inner fun x => (outer x).map f :=
  (h.bind fun a => some (f a)).congr fun _ => Option.map_eq_bind

/-- What is read first and does not depend on the value may be read after it. -/
theorem after (first : Option σ) {outer : σ → Source → Option α} (h : ∀ s, Through inner (outer s)) :
    Through inner fun x => first.bind fun s => outer s x := by
  choose rest told using h
  refine ⟨fun c => first.bind fun s => rest s c, fun x ne => ?_⟩
  cases first with
  | none => cases inner x <;> rfl
  | some s => exact told s x ne

theorem eq (h : Through inner outer) {x x' : Source} (ne : x.bare ≠ ['n', 'u', 'l', 'l'])
    (ne' : x'.bare ≠ ['n', 'u', 'l', 'l']) (same : inner x = inner x') : outer x = outer x' := by
  obtain ⟨rest, told⟩ := h
  rw [told x ne, told x' ne', same]

theorem eq_none (h : Through inner outer) {x : Source} (ne : x.bare ≠ ['n', 'u', 'l', 'l'])
    (refused : inner x = Option.none) : outer x = Option.none := by
  obtain ⟨rest, told⟩ := h
  rw [told x ne, refused, Option.bind_none]

/-- What is told by a value around another one is told by what stands inside. -/
theorem trans {mid : Source → Option α} {around : Source → Source} {outer : Source → Option β}
    (h : Through inner fun x => mid (around x))
    (ne_null : ∀ x, x.bare ≠ ['n', 'u', 'l', 'l'] → (around x).bare ≠ ['n', 'u', 'l', 'l']) (h' : Through mid outer) :
    Through inner fun x => outer (around x) := by
  obtain ⟨rest, told⟩ := h
  obtain ⟨rest', told'⟩ := h'
  refine ⟨fun c => (rest c).bind rest', fun x ne => ?_⟩
  have inside : mid (around x) = (inner x).bind rest := told x ne
  have outside : outer (around x) = (mid (around x)).bind rest' := told' (around x) (ne_null x ne)
  rw [← Option.bind_assoc, ← inside]
  exact outside

end Through

theorem Field.through_value? {field : Field α} {shape : Shape γ} (own : field.Holds shape) (d : Nat) :
    Through (shape.reader d).value? (field.reader d).value? := by
  cases own with
  | required => rw [Field.reader]; exact .refl _
  | optional name shape =>
    have nullable := means_nullableReader (shape.isLocal d)
    refine ⟨fun a => some (some a), fun x ne => ?_⟩
    rw [Field.reader, nullable.value?_eq, nullable?, if_neg ne, Option.map_eq_bind]
    rfl
  | defaulted => rw [Field.reader]; exact .refl _

theorem Field.through_place? {field : Field α} {shape : Shape γ} (own : field.Holds shape) (d : Nat) (slot : Option α) :
    Through (shape.reader d).value? fun x => field.place? d x slot := by
  cases slot with
  | none => exact (Field.through_value? own d).map some
  | some a => exact .none _

theorem Fields.through_place? {fields : Fields β} {name : String} {shape : Shape γ} (has : fields.Has name shape)
    (d : Nat) (slots : fields.Slots) : Through (shape.reader d).value? fun x => fields.place? d name x slots := by
  induction has with
  | head own rest =>
    refine ((Field.through_place? own d slots.1).map fun slot => (slot, slots.2)).congr fun x => ?_
    rw [place?_head rfl]
    rfl
  | tail other _ ih =>
    refine ((ih slots.2).map fun others => (slots.1, others)).congr fun x => ?_
    rw [place?_tail other]
    rfl

theorem Fields.Has.mem_wireNames {fields : Fields β} {name : String} {shape : Shape γ} (has : fields.Has name shape) :
    name ∈ fields.wireNames := by
  induction has with
  | head => exact List.mem_cons_self
  | tail _ _ ih => exact List.mem_cons_of_mem _ ih

theorem Fields.through_placeOpen? {fields : Fields β} {name : String} {shape : Shape γ} (has : fields.Has name shape)
    (d : Nat) (state : fields.Slots × NameMap Json) :
    Through (shape.reader d).value? fun x => fields.placeOpen? d name x state := by
  refine ((Fields.through_place? has d state.1).map fun slots => (slots, state.2)).congr fun x => ?_
  rw [placeOpen?, if_pos has.mem_wireNames]
  rfl

/-- What members lead to is told by what is read of one of them, if what that one leads to is. -/
theorem through_foldlM {σ : Type} {use : σ → String → MemberUse σ} {place : String → Source → σ → Option σ}
    (places : Places use place) {inner : Source → Option γ} {key : Key} {name : String} (named : key.name? = some name)
    (each : ∀ state, Through inner fun x => place name x state) (before after : List (Key × Source)) (state : σ) :
    Through inner fun x => (before ++ (key, x) :: after).foldlM (memberStep use) state := by
  refine (Through.after (before.foldlM (memberStep use) state) fun state =>
    (each state).bind fun state => after.foldlM (memberStep use) state).congr fun x => ?_
  rw [List.foldlM_append]
  refine bind_congr fun state => ?_
  have step : memberStep use state (key, x) = place name x state :=
    congrFun (places.memberStep_eq (m := (key, x)) named) state
  rw [List.foldlM_cons, step]
  rfl

theorem Fields.through_ofList? {fields : Fields β} {i : Nat} {shape : Shape γ} (has : fields.HasAt i shape) (d : Nat)
    {before : List Source} (length : before.length = i) (after : List Source) :
    Through (shape.reader d).value? fun x => fields.ofList? d (before ++ x :: after) := by
  induction has generalizing before with
  | head own rest =>
    obtain rfl := List.eq_nil_of_length_eq_zero length
    exact (Field.through_value? own d).bind fun a => (rest.ofList? d after).map fun b => (a, b)
  | tail field _ ih =>
    obtain ⟨y, before, rfl⟩ := List.exists_cons_of_length_eq_add_one length
    exact .after ((field.reader d).value? y) fun a => (ih (Nat.succ.inj length)).map fun b => (a, b)

/-! ## What is read of brackets -/

section Brackets

variable {d : Nat} {inner : Source → Option γ}

theorem through_ofBrackets_object {square : List Source → Option α} {curly : List (Key × Source) → Option α}
    {members : Source → List (Key × Source)} (h : Through inner fun x => curly (members x)) (pad : Pad)
    (inside : Blanks) : Through inner fun x => Source.ofBrackets d square curly (.object pad inside (members x)) := by
  by_cases zero : d = 0
  · exact (Through.none inner).congr fun x => if_pos zero
  · exact h.congr fun x => if_neg zero

theorem through_ofBrackets_array {square : List Source → Option α} {curly : List (Key × Source) → Option α}
    {items : Source → List Source} (h : Through inner fun x => square (items x)) (pad : Pad) (inside : Blanks) :
    Through inner fun x => Source.ofBrackets d square curly (.array pad inside (items x)) := by
  by_cases zero : d = 0
  · exact (Through.none inner).congr fun x => if_pos zero
  · exact h.congr fun x => if_neg zero

variable {model extra : String} {fields : Fields β} {shape : Shape γ} {key : Key} {name : String}

/-- What is read of a record is told by what is read of a field, -/
theorem Shape.through_member {form : Form α β} (named : key.name? = some name) (has : fields.Has name shape) (pad : Pad)
    (inside : Blanks) (before after : List (Key × Source)) :
    Through (shape.reader (d - 1)).value? fun x =>
      ((Shape.record model fields form).reader d).value? (.object pad inside (before ++ (key, x) :: after)) := by
  have means := Shape.means_record fields.isLocal fields.isListed model form d
  have slots := through_foldlM (fields.places_use (d - 1)) named (Fields.through_place? has (d - 1)) before after
    fields.start
  exact (through_ofBrackets_object ((slots.bind _).map _) pad inside).congr fun x => means.value?_eq _

/-- also if the members that are no fields are kept, -/
theorem Shape.through_memberOpen {form : Form α (β × NameMap Json)} (named : key.name? = some name)
    (has : fields.Has name shape) (pad : Pad) (inside : Blanks) (before after : List (Key × Source)) :
    Through (shape.reader (d - 1)).value? fun x =>
      ((Shape.openRecord model fields extra form).reader d).value?
        (.object pad inside (before ++ (key, x) :: after)) := by
  have means := Shape.means_openRecord fields.isLocal model extra form d
  have state := through_foldlM (fields.places_openUse (d - 1)) named (Fields.through_placeOpen? has (d - 1))
    before after (fields.start, .empty)
  exact (through_ofBrackets_object ((state.bind _).map _) pad inside).congr fun x => means.value?_eq _

/-- and also if the record is written as a list. -/
theorem Shape.through_rowItem {form : Form α β} {before : List Source}
    (has : fields.HasAt before.length shape) (pad : Pad) (inside : Blanks) (after : List Source) :
    Through (shape.reader (d - 1)).value? fun x =>
      ((Shape.record model fields form).reader d).value? (.array pad inside (before ++ x :: after)) := by
  have means := Shape.means_record fields.isLocal fields.isListed model form d
  have row := Fields.through_ofList? has (d - 1) rfl after
  exact (through_ofBrackets_array (row.map _) pad inside).congr fun x => means.value?_eq _

/-- What is read of a list is told by what is read of an item. -/
theorem Shape.through_item (item : Shape γ) (pad : Pad) (inside : Blanks) (before after : List Source) :
    Through (item.reader (d - 1)).value? fun x =>
      ((Shape.list item).reader d).value? (.array pad inside (before ++ x :: after)) := by
  have means := Shape.means_list (item.isLocal (d - 1))
  have items : Through (item.reader (d - 1)).value? fun x =>
      (before ++ x :: after).mapM (item.reader (d - 1)).value? := by
    refine (Through.after (before.mapM (item.reader (d - 1)).value?) fun first =>
      (Through.refl _).bind fun a => (after.mapM (item.reader (d - 1)).value?).map fun rest =>
        first ++ a :: rest).congr fun x => ?_
    simp only [List.mapM_append, List.mapM_cons, Option.bind_eq_bind, Option.bind_assoc, Option.map_eq_bind,
      Function.comp_def, Option.pure_def, Option.bind_some]
  exact (through_ofBrackets_array items pad inside).congr fun x => means.value?_eq _

end Brackets

/-! ## What is read of the whole -/

section Within

variable {shape : Shape α} {inner : Shape γ} {around : Source → Source}

theorem Shape.Within.ne_null (h : shape.Within inner around) {x : Source} (ne : x.bare ≠ ['n', 'u', 'l', 'l']) :
    (around x).bare ≠ ['n', 'u', 'l', 'l'] := by
  cases h with
  | here => exact ne
  | member | memberOpen | item | rowItem => exact nofun

/-- What is read of a value is told by what is read of a value that stands in it. -/
theorem Shape.Within.through (h : shape.Within inner around) (d : Nat) :
    ∃ e, Through (inner.reader e).value? fun x => (shape.reader d).value? (around x) := by
  -- from the outside to the inside: each bracket is told by what is in it
  induction h generalizing d with
  | here shape => exact ⟨d, .refl _⟩
  | member pad inside before after named has value ih =>
    obtain ⟨e, told⟩ := ih (d - 1)
    exact ⟨e, told.trans (fun _ => value.ne_null) (Shape.through_member named has pad inside before after)⟩
  | memberOpen pad inside before after named has value ih =>
    obtain ⟨e, told⟩ := ih (d - 1)
    exact ⟨e, told.trans (fun _ => value.ne_null) (Shape.through_memberOpen named has pad inside before after)⟩
  | item pad inside before after value ih =>
    obtain ⟨e, told⟩ := ih (d - 1)
    exact ⟨e, told.trans (fun _ => value.ne_null) (Shape.through_item _ pad inside before after)⟩
  | rowItem pad inside before after has value ih =>
    obtain ⟨e, told⟩ := ih (d - 1)
    exact ⟨e, told.trans (fun _ => value.ne_null) (Shape.through_rowItem has pad inside after)⟩

/-- Two values that are read alike at a place are read alike, -/
theorem Shape.Within.value?_eq (h : shape.Within inner around) {x x' : Source} (ne : x.bare ≠ ['n', 'u', 'l', 'l'])
    (ne' : x'.bare ≠ ['n', 'u', 'l', 'l'])
    (same : ∀ e, (inner.reader e).value? x = (inner.reader e).value? x') (d : Nat) :
    (shape.reader d).value? (around x) = (shape.reader d).value? (around x') := by
  obtain ⟨e, told⟩ := h.through d
  exact told.eq ne ne' (same e)

/-- and nothing is read of a value of which nothing is read at a place. -/
theorem Shape.Within.value?_eq_none (h : shape.Within inner around) {x : Source} (ne : x.bare ≠ ['n', 'u', 'l', 'l'])
    (refused : ∀ e, (inner.reader e).value? x = none) (d : Nat) : (shape.reader d).value? (around x) = none := by
  obtain ⟨e, told⟩ := h.through d
  exact told.eq_none ne (refused e)

end Within

end Schema

end EntitlementClient
