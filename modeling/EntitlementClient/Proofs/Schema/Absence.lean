/-
A null in place of a field that is not there, in an object anywhere in a value. To a field that may be absent
it is the same as nothing; where the absence of a list or a map stands for an empty one, null is no value at all
and nothing is decoded.
-/
import EntitlementClient.Proofs.Schema.Within

namespace EntitlementClient

open EntitlementClient.Json

namespace Json

/-- Null. -/
def Source.null (pad : Pad) : Source :=
  .scalar pad ['n', 'u', 'l', 'l'] .nullLiteral

end Json

namespace Schema

variable {α β γ : Type}

/-! ## Kinds of fields -/

/-- What a field makes of its absence: nothing is there, there is an empty list or an empty map, or something
else. -/
inductive Kind
  | optional
  | collection
  | other
deriving DecidableEq

/-- The kind of a field. -/
def Field.kind : {α : Type} → Field α → Kind
  | _, .optional _ _ => .optional
  | _, .defaulted _ (.list _) _ => .collection
  | _, .defaulted _ .texts _ => .collection
  | _, _ => .other

/-- The kind of the field of a name. -/
def Fields.kind? : {β : Type} → Fields β → String → Option Kind
  | _, .nil, _ => none
  | _, .cons field rest, name => if field.name.wire = name then some field.kind else rest.kind? name

/-- The kind of the field of a name in a record. -/
def Shape.kind? : {α : Type} → Shape α → String → Option Kind
  | _, .record _ fields _, name => fields.kind? name
  | _, .openRecord _ fields _ _, name => fields.kind? name
  | _, _, _ => none

theorem Fields.mem_wireNames_of_kind? : {β : Type} → {fields : Fields β} → {name : String} → {kind : Kind} →
    fields.kind? name = some kind → name ∈ fields.wireNames
  | _, .cons field rest, name, kind, h => by
    rw [Fields.kind?] at h
    split at h
    · next own => exact own ▸ List.mem_cons_self
    · exact List.mem_cons_of_mem _ (mem_wireNames_of_kind? h)

theorem Field.value?_null_optional (name : FieldName) (shape : Shape α) (d : Nat) (pad : Pad) :
    ((Field.optional name shape).reader d).value? (.null pad) = some none := by
  rw [Field.reader, (means_nullableReader (shape.isLocal d)).value?_eq, nullable?]
  exact if_pos rfl

theorem Field.value?_null_collection {field : Field α} (kind : field.kind = .collection) (d : Nat) (pad : Pad) :
    (field.reader d).value? (.null pad) = none := by
  cases field with
  | required => cases kind
  | optional => cases kind
  | defaulted name shape =>
    rw [Field.reader]
    cases shape with
    | texts => rw [(Shape.means_texts d).value?_eq]; rfl
    | list item => rw [(Shape.means_list (item.isLocal (d - 1))).value?_eq]; rfl
    | _ => cases kind

/-! ## Slots -/

/-- Whether no value of the field of a name has been read yet. -/
def Fields.Unfilled : {β : Type} → (fields : Fields β) → String → fields.Slots → Prop
  | _, .nil, _, _ => True
  | _, .cons field rest, name, slots =>
    if field.name.wire = name then slots.1 = none else rest.Unfilled name slots.2

theorem Fields.unfilled_head {field : Field α} {name : String} (own : field.name.wire = name) (rest : Fields β)
    (slot : Option α) (slots : rest.Slots) : (Fields.cons field rest).Unfilled name (slot, slots) ↔ slot = none :=
  iff_of_eq (if_pos own)

theorem Fields.unfilled_tail {field : Field α} {name : String} (other : field.name.wire ≠ name) (rest : Fields β)
    (slot : Option α) (slots : rest.Slots) :
    (Fields.cons field rest).Unfilled name (slot, slots) ↔ rest.Unfilled name slots :=
  iff_of_eq (if_neg other)

theorem Fields.unfilled_start : {β : Type} → (fields : Fields β) → (name : String) → fields.Unfilled name fields.start
  | _, .nil, _ => trivial
  | _, .cons field rest, name => by
    by_cases own : field.name.wire = name
    · exact (unfilled_head own rest none rest.start).2 rfl
    · exact (unfilled_tail own rest none rest.start).2 (rest.unfilled_start name)

/-- A member of another name leaves the slot as it is. -/
theorem Fields.Unfilled.place? : {β : Type} → {fields : Fields β} → {name m : String} → m ≠ name → {d : Nat} →
    {x : Source} → {slots next : fields.Slots} → fields.Unfilled name slots →
      fields.place? d m x slots = some next → fields.Unfilled name next
  | _, .nil, _, _, _, _, _, _, _, _, _ => trivial
  | _, .cons (α := α) field rest, name, m, ne, d, x, slots, next, unfilled, placed => by
    obtain ⟨slot, slots⟩ : Option α × rest.Slots := slots
    by_cases own : field.name.wire = m
    · rw [Fields.place?_head own] at placed
      obtain ⟨slot', -, rfl⟩ := Option.map_eq_some_iff.1 placed
      have other : field.name.wire ≠ name := fun eq => ne (own.symm.trans eq)
      exact (unfilled_tail other rest slot' slots).2 ((unfilled_tail other rest slot slots).1 unfilled)
    · rw [Fields.place?_tail own] at placed
      obtain ⟨others, led, rfl⟩ := Option.map_eq_some_iff.1 placed
      by_cases named : field.name.wire = name
      · exact (unfilled_head named rest slot others).2 ((unfilled_head named rest slot slots).1 unfilled)
      · have unfilled := (unfilled_tail named rest slot slots).1 unfilled
        exact (unfilled_tail named rest slot others).2 (unfilled.place? ne led)

/-- Null in the slot of a field that may be absent makes the row that an empty slot makes. -/
theorem Fields.Unfilled.exists_null : {β : Type} → {fields : Fields β} → {name : String} →
    fields.kind? name = some .optional → {slots : fields.Slots} → fields.Unfilled name slots → (d : Nat) → (pad : Pad) →
      ∃ next, fields.place? d name (.null pad) slots = some next ∧ fields.finish next = fields.finish slots
  | _, .cons (α := α) field rest, name, kind, slots, unfilled, d, pad => by
    obtain ⟨slot, slots⟩ : Option α × rest.Slots := slots
    rw [Fields.kind?] at kind
    by_cases own : field.name.wire = name
    · rw [if_pos own] at kind
      obtain rfl := (unfilled_head own rest slot slots).1 unfilled
      cases field with
      | optional fieldName shape =>
        refine ⟨(some none, slots), ?_, rfl⟩
        rw [place?_head own, onFirst, Field.place?, Field.value?_null_optional]
        rfl
      | required => cases kind
      | defaulted _ shape => cases shape <;> cases kind
    · rw [if_neg own] at kind
      obtain ⟨next, placed, same⟩ := ((unfilled_tail own rest slot slots).1 unfilled).exists_null kind d pad
      refine ⟨(slot, next), ?_, ?_⟩
      · rw [place?_tail own, onSecond, placed]
        rfl
      · simp only [Fields.finish, same]

/-- Null for a list or a map is refused, whatever has been read before. -/
theorem Fields.place?_null_collection : {β : Type} → {fields : Fields β} → {name : String} →
    fields.kind? name = some .collection → (d : Nat) → (pad : Pad) → (slots : fields.Slots) →
      fields.place? d name (.null pad) slots = none
  | _, .cons (α := α) field rest, name, kind, d, pad, slots => by
    obtain ⟨slot, slots⟩ : Option α × rest.Slots := slots
    rw [Fields.kind?] at kind
    split at kind
    · next own =>
      rw [place?_head own, onFirst]
      cases slot with
      | some a => rfl
      | none => rw [Field.place?, Field.value?_null_collection (Option.some.inj kind)]; rfl
    · next other =>
      rw [place?_tail other, onSecond, place?_null_collection kind d pad slots]
      rfl

/-! ## Objects -/

section Objects

variable {fields : Fields β} {d : Nat} {pad : Pad} {before after : List (Key × Source)} {key : Key} {name : String}

theorem Fields.ofObject?_null_optional (kind : fields.kind? name = some .optional) (named : key.name? = some name)
    (fresh : some name ∉ memberNames (before ++ after)) :
    fields.ofObject? d (before ++ (key, .null pad) :: after) = fields.ofObject? d (before ++ after) := by
  have places := fields.places_use d
  unfold ofObject?
  rw [places.foldlM_fresh (fun m n _ x y => fields.interchange_place? d m n x y) named fresh]
  cases read : (before ++ after).foldlM (memberStep (fields.use d)) fields.start with
  | none => rfl
  | some slots =>
    have unfilled : fields.Unfilled name slots := places.foldlM_keeps (fields.Unfilled name)
      (fun _ ne _ _ _ unfilled placed => unfilled.place? ne placed) fresh (fields.unfilled_start name) read
    obtain ⟨next, placed, same⟩ := unfilled.exists_null kind d pad
    rw [Option.bind_some, placed, Option.bind_some, Option.bind_some, same]

theorem Fields.ofOpen?_null_optional (kind : fields.kind? name = some .optional) (named : key.name? = some name)
    (fresh : some name ∉ memberNames (before ++ after)) :
    fields.ofOpen? d (before ++ (key, .null pad) :: after) = fields.ofOpen? d (before ++ after) := by
  have places := fields.places_openUse d
  have mem := mem_wireNames_of_kind? kind
  unfold ofOpen?
  rw [places.foldlM_fresh (fun m n ne x y => fields.interchange_placeOpen? d ne x y) named fresh]
  cases read : (before ++ after).foldlM (memberStep (fields.openUse d)) (fields.start, .empty) with
  | none => rfl
  | some state =>
    have unfilled : fields.Unfilled name state.1 := by
      refine places.foldlM_keeps (fun state => fields.Unfilled name state.1)
        (fun m ne x state next unfilled placed => ?_) fresh (fields.unfilled_start name) read
      rw [placeOpen?] at placed
      by_cases modelled : m ∈ fields.wireNames
      · rw [if_pos modelled] at placed
        obtain ⟨slots, led, rfl⟩ := Option.map_eq_some_iff.1 placed
        exact unfilled.place? ne led
      · rw [if_neg modelled] at placed
        obtain ⟨extra, -, rfl⟩ := Option.map_eq_some_iff.1 placed
        exact unfilled
    obtain ⟨next, placed, same⟩ := unfilled.exists_null kind d pad
    rw [Option.bind_some, placeOpen?, if_pos mem, onFirst, placed, Option.map_some, Option.bind_some,
      Option.bind_some, same]

/-- A member that leads nowhere from any state spoils the object. -/
theorem foldlM_eq_none {σ : Type} {use : σ → String → MemberUse σ} {place : String → Source → σ → Option σ}
    (places : Places use place) (named : key.name? = some name) {x : Source}
    (refused : ∀ state, place name x state = none) (state : σ) :
    (before ++ (key, x) :: after).foldlM (memberStep use) state = none := by
  have step (state : σ) : memberStep use state (key, x) = none :=
    (congrFun (places.memberStep_eq (m := (key, x)) named) state).trans (refused state)
  rw [List.foldlM_append]
  cases before.foldlM (memberStep use) state with
  | none => rfl
  | some state => show (memberStep use state (key, x)).bind _ = none; rw [step, Option.bind_none]

theorem Fields.ofObject?_null_collection (kind : fields.kind? name = some .collection) (named : key.name? = some name) :
    fields.ofObject? d (before ++ (key, .null pad) :: after) = none := by
  unfold ofObject?
  rw [foldlM_eq_none (fields.places_use d) named (place?_null_collection kind d pad), Option.bind_none]

theorem Fields.ofOpen?_null_collection (kind : fields.kind? name = some .collection) (named : key.name? = some name) :
    fields.ofOpen? d (before ++ (key, .null pad) :: after) = none := by
  have refused (state : fields.Slots × NameMap Json) : fields.placeOpen? d name (.null pad) state = none := by
    rw [placeOpen?, if_pos (mem_wireNames_of_kind? kind), onFirst, place?_null_collection kind, Option.map_none]
  unfold ofOpen?
  rw [foldlM_eq_none (fields.places_openUse d) named refused, Option.bind_none]

variable {shape : Shape α} {inside : Blanks} {nullPad : Pad}

theorem Shape.value?_null_optional (kind : shape.kind? name = some .optional) (named : key.name? = some name)
    (fresh : some name ∉ memberNames (before ++ after)) :
    (shape.reader d).value? (.object pad inside (before ++ (key, .null nullPad) :: after)) =
      (shape.reader d).value? (.object pad inside (before ++ after)) := by
  cases shape with
  | record model fields form =>
    have means := Shape.means_record fields.isLocal fields.isListed model form d
    rw [means.value?_eq, means.value?_eq, Source.ofBrackets, Source.ofBrackets,
      Fields.ofObject?_null_optional kind named fresh]
  | openRecord model fields extra form =>
    have means := Shape.means_openRecord fields.isLocal model extra form d
    rw [means.value?_eq, means.value?_eq, Source.ofBrackets, Source.ofBrackets,
      Fields.ofOpen?_null_optional kind named fresh]
  | _ => cases kind

theorem Shape.value?_null_collection (kind : shape.kind? name = some .collection) (named : key.name? = some name) :
    (shape.reader d).value? (.object pad inside (before ++ (key, .null nullPad) :: after)) = none := by
  cases shape with
  | record model fields form =>
    have means := Shape.means_record fields.isLocal fields.isListed model form d
    rw [means.value?_eq, Source.ofBrackets, Fields.ofObject?_null_collection kind named]
    exact ite_self _
  | openRecord model fields extra form =>
    have means := Shape.means_openRecord fields.isLocal model extra form d
    rw [means.value?_eq, Source.ofBrackets, Fields.ofOpen?_null_collection kind named]
    exact ite_self _
  | _ => cases kind

end Objects

/-! ## Anywhere in a value -/

/-- Whether one value is another one with one more member in an object: a null under the name of a field of the
given kind that is not there. -/
inductive Shape.GainsNull (kind : Kind) (name : String) {α : Type} (shape : Shape α) : Source → Source → Prop
  | within {γ : Type} {inner : Shape γ} {around : Source → Source} (place : shape.Within inner around)
      (field : inner.kind? name = some kind) (pad : Pad) (inside : Blanks)
      (before after : List (Key × Source)) {key : Key} (named : key.name? = some name)
      (fresh : some name ∉ memberNames (before ++ after)) (nullPad : Pad) :
    shape.GainsNull kind name (around (.object pad inside (before ++ after)))
      (around (.object pad inside (before ++ (key, .null nullPad) :: after)))

section

variable {shape : Shape α} {name : String} {x x' : Source}

/-- A null for a field that may be absent changes nothing. -/
theorem Shape.GainsNull.value?_eq (h : shape.GainsNull .optional name x x') (d : Nat) :
    (shape.reader d).value? x' = (shape.reader d).value? x := by
  obtain ⟨place, field, pad, inside, before, after, named, fresh, nullPad⟩ := h
  refine place.value?_eq ?_ ?_ (fun _ => Shape.value?_null_optional field named fresh) d <;> exact nofun

/-- With a null for a list or a map nothing is read at all. -/
theorem Shape.GainsNull.value?_eq_none (h : shape.GainsNull .collection name x x') (d : Nat) :
    (shape.reader d).value? x' = none := by
  obtain ⟨place, field, pad, inside, before, after, named, fresh, nullPad⟩ := h
  refine place.value?_eq_none ?_ (fun _ => Shape.value?_null_collection field named) d
  exact nofun

end

/-! ## The lists and the maps of a schema -/

mutual

/-- The names of the lists and the maps that may be absent, at any depth. -/
def Shape.collections : {α : Type} → Shape α → List String
  | _, .list item => item.collections
  | _, .record _ fields _ => fields.collections
  | _, .openRecord _ fields _ _ => fields.collections
  | _, _ => []

@[inherit_doc Shape.collections]
def Fields.collections : {β : Type} → Fields β → List String
  | _, .nil => []
  | _, .cons field rest => field.collections ++ rest.collections

@[inherit_doc Shape.collections]
def Field.collections : {α : Type} → Field α → List String
  | _, .required _ shape => shape.collections
  | _, .optional _ shape => shape.collections
  | _, .defaulted name shape _ => name.wire :: shape.collections

end

theorem Field.Holds.collections_subset {field : Field α} {shape : Shape γ} (own : field.Holds shape) :
    shape.collections ⊆ field.collections := by
  cases own with
  | required => rw [Field.collections]; exact List.Subset.refl _
  | optional => rw [Field.collections]; exact List.Subset.refl _
  | defaulted => rw [Field.collections]; exact List.subset_cons_self _ _

theorem Fields.Has.collections_subset {fields : Fields β} {name : String} {shape : Shape γ}
    (has : fields.Has name shape) : shape.collections ⊆ fields.collections := by
  induction has with
  | head own rest => rw [Fields.collections]; exact List.subset_append_of_subset_left _ own.collections_subset
  | tail _ _ ih => rw [Fields.collections]; exact List.subset_append_of_subset_right _ ih

theorem Fields.HasAt.collections_subset {fields : Fields β} {i : Nat} {shape : Shape γ} (has : fields.HasAt i shape) :
    shape.collections ⊆ fields.collections := by
  induction has with
  | head own rest => rw [Fields.collections]; exact List.subset_append_of_subset_left _ own.collections_subset
  | tail _ _ ih => rw [Fields.collections]; exact List.subset_append_of_subset_right _ ih

theorem Field.mem_collections {field : Field α} (kind : field.kind = .collection) :
    field.name.wire ∈ field.collections := by
  cases field with
  | required => cases kind
  | optional => cases kind
  | defaulted name shape => rw [Field.collections]; exact List.mem_cons_self

theorem Fields.mem_collections : {β : Type} → {fields : Fields β} → {name : String} →
    fields.kind? name = some .collection → name ∈ fields.collections
  | _, .cons field rest, name, kind => by
    rw [Fields.kind?] at kind
    rw [Fields.collections, List.mem_append]
    split at kind
    · next own => exact .inl (own ▸ Field.mem_collections (Option.some.inj kind))
    · exact .inr (mem_collections kind)

theorem Shape.mem_collections {shape : Shape α} {name : String} (kind : shape.kind? name = some .collection) :
    name ∈ shape.collections := by
  cases shape with
  | record => rw [Shape.collections]; exact Fields.mem_collections kind
  | openRecord => rw [Shape.collections]; exact Fields.mem_collections kind
  | _ => cases kind

/-- The lists and the maps of what stands in a value are among those of the value. -/
theorem Shape.Within.collections_subset {shape : Shape α} {inner : Shape γ} {around : Source → Source}
    (h : shape.Within inner around) : inner.collections ⊆ shape.collections := by
  induction h with
  | here => exact List.Subset.refl _
  | member _ _ _ _ _ has _ ih => rw [Shape.collections]; exact List.Subset.trans ih has.collections_subset
  | memberOpen _ _ _ _ _ has _ ih => rw [Shape.collections]; exact List.Subset.trans ih has.collections_subset
  | item _ _ _ _ _ ih => rw [Shape.collections]; exact ih
  | rowItem _ _ _ _ has _ ih => rw [Shape.collections]; exact List.Subset.trans ih has.collections_subset

theorem Shape.GainsNull.mem_collections {shape : Shape α} {name : String} {x x' : Source}
    (h : shape.GainsNull .collection name x x') : name ∈ shape.collections := by
  obtain ⟨place, field, -, -, -, -, -, -, -⟩ := h
  exact place.collections_subset (Shape.mem_collections field)

end Schema

end EntitlementClient
