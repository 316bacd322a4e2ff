/-
Bodies that differ in the order of the members of a model, or in members that are not modelled: what is
decoded of them is the same.
-/
import EntitlementClient.Proofs.Schema.Within
import Mathlib.Logic.Relation

namespace EntitlementClient

open EntitlementClient.Json

namespace Schema

variable {α β : Type}

/-- Whether one object differs from another by a schema: in the order of its members, or in a member that is not
modelled. Where members are kept in a map, they may change places if their names are distinct. -/
inductive Shape.Differs : {α : Type} → Shape α → Source → Source → Prop
  | order {α β : Type} {model : String} {fields : Fields β} {form : Form α β} (pad : Pad) (inside : Blanks)
      {members members' : List (Key × Source)} (perm : members.Perm members') :
    (Shape.record model fields form).Differs (.object pad inside members) (.object pad inside members')
  | insert {α β : Type} {model : String} {fields : Fields β} {form : Form α β} (pad : Pad) (inside : Blanks)
      (before after : List (Key × Source)) {key : Key} {name : String} (named : key.name? = some name)
      (unmodelled : name ∉ fields.wireNames) (x : Source) :
    (Shape.record model fields form).Differs (.object pad inside (before ++ after))
      (.object pad inside (before ++ (key, x) :: after))
  | orderOpen {α β : Type} {model extra : String} {fields : Fields β} {form : Form α (β × NameMap Json)} (pad : Pad)
      (inside : Blanks) {members members' : List (Key × Source)} (distinct : (memberNames members).Nodup)
      (perm : members.Perm members') :
    (Shape.openRecord model fields extra form).Differs (.object pad inside members) (.object pad inside members')
  | orderTexts (pad : Pad) (inside : Blanks) {members members' : List (Key × Source)}
      (distinct : (memberNames members).Nodup) (perm : members.Perm members') :
    Shape.texts.Differs (.object pad inside members) (.object pad inside members')

/-- Whether one value differs from another in one object alone, at whatever place it stands. -/
inductive Shape.Varies (shape : Shape α) : Source → Source → Prop
  | within {γ : Type} {inner : Shape γ} {around : Source → Source} (place : shape.Within inner around) {x x' : Source}
      (differs : inner.Differs x x') :
    shape.Varies (around x) (around x')

/-- Whether one value is led to from another by any number of such differences. -/
def Shape.Varied (shape : Shape α) : Source → Source → Prop :=
  Relation.ReflTransGen shape.Varies

/-- Objects that differ are in brackets, so that neither is null. -/
theorem Shape.Differs.ne_null {shape : Shape α} {x x' : Source} (h : shape.Differs x x') :
    x.bare ≠ ['n', 'u', 'l', 'l'] ∧ x'.bare ≠ ['n', 'u', 'l', 'l'] := by
  cases h <;> exact ⟨nofun, nofun⟩

/-! ## What is read -/

theorem Shape.value?_record_congr {model : String} {fields : Fields β} {form : Form α β} {d : Nat}
    {members members' : List (Key × Source)}
    (same : members.foldlM (memberStep (fields.use (d - 1))) fields.start =
      members'.foldlM (memberStep (fields.use (d - 1))) fields.start) (pad : Pad) (inside : Blanks) :
    ((Shape.record model fields form).reader d).value? (.object pad inside members) =
      ((Shape.record model fields form).reader d).value? (.object pad inside members') := by
  have means := Shape.means_record fields.isLocal fields.isListed model form d
  rw [means.value?_eq, means.value?_eq, Source.ofBrackets, Source.ofBrackets, Fields.ofObject?, Fields.ofObject?, same]

theorem Shape.value?_openRecord_congr {model extra : String} {fields : Fields β} {form : Form α (β × NameMap Json)}
    {d : Nat} {members members' : List (Key × Source)}
    (same : members.foldlM (memberStep (fields.openUse (d - 1))) (fields.start, .empty) =
      members'.foldlM (memberStep (fields.openUse (d - 1))) (fields.start, .empty)) (pad : Pad) (inside : Blanks) :
    ((Shape.openRecord model fields extra form).reader d).value? (.object pad inside members) =
      ((Shape.openRecord model fields extra form).reader d).value? (.object pad inside members') := by
  have means := Shape.means_openRecord fields.isLocal model extra form d
  rw [means.value?_eq, means.value?_eq, Source.ofBrackets, Source.ofBrackets, Fields.ofOpen?, Fields.ofOpen?, same]

/-- What is read of two objects that differ is the same, -/
theorem Shape.Differs.value?_eq {shape : Shape α} {x x' : Source} (h : shape.Differs x x') (d : Nat) :
    (shape.reader d).value? x = (shape.reader d).value? x' := by
  cases h with
  | @order _ _ _ fields _ pad inside _ _ perm =>
    exact Shape.value?_record_congr (fields.foldlM_use_perm (d - 1) perm _) pad inside
  | @insert _ _ _ fields _ pad inside before after _ _ named unmodelled x =>
    have passed slots := Fields.place?_of_not_mem (d - 1) x slots unmodelled
    have same := (fields.places_use (d - 1)).foldlM_insert named passed before after fields.start
    exact Shape.value?_record_congr same.symm pad inside
  | @orderOpen _ _ _ _ fields _ pad inside _ _ distinct perm =>
    have either m n ne x y := fields.interchange_placeOpen? (d - 1) (m := m) (n := n) ne x y
    exact Shape.value?_openRecord_congr ((fields.places_openUse (d - 1)).foldlM_perm either distinct perm _) pad inside
  | orderTexts pad inside distinct perm =>
    have same := places_textsUse.foldlM_perm (fun m n ne x y => NameMap.interchange_insert? ne _ _) distinct perm .empty
    rw [(Shape.means_texts d).value?_eq, (Shape.means_texts d).value?_eq, Source.ofBrackets, Source.ofBrackets, same]

/-- and so is what is read of two values in which they stand. -/
theorem Shape.Varies.value?_eq {shape : Shape α} {x x' : Source} (h : shape.Varies x x') (d : Nat) :
    (shape.reader d).value? x = (shape.reader d).value? x' := by
  obtain ⟨place, differs⟩ := h
  exact place.value?_eq differs.ne_null.1 differs.ne_null.2 differs.value?_eq d

/-! ## Bodies -/

/-- What is decoded of a body is what its value stands for. -/
theorem Shape.toOption_decode_text (shape : Shape α) (x : Source) :
    (shape.decode x.text).toOption = (shape.reader depthLimit).value? x := by
  have read := shape.isLocal depthLimit x.pad.before x x.pad.after.chars x.pad.after.endsNumeral
  rw [← List.append_assoc] at read
  rw [Shape.decode, Source.text, Pad.around]
  cases run : (shape.reader depthLimit).run (x.pad.before.chars ++ x.bare ++ x.pad.after.chars) with
  | error fault =>
    rw [run] at read
    cases value : (shape.reader depthLimit).value? x with
    | none => rfl
    | some a => rw [value] at read; cases read
  | ok pair =>
    obtain ⟨a, rest⟩ := pair
    rw [run] at read
    cases value : (shape.reader depthLimit).value? x with
    | none => rw [value] at read; cases read
    | some b =>
      rw [value] at read
      cases read
      simp only [skipSpace_blanks_nil]
      rfl

theorem Shape.decode_text_eq_ok {shape : Shape α} {x : Source} {a : α} :
    shape.decode x.text = .ok a ↔ (shape.reader depthLimit).value? x = some a := by
  rw [← shape.toOption_decode_text]
  cases shape.decode x.text <;> simp [Except.toOption]

/-- A body is decoded to the same value after any number of differences. -/
theorem Shape.Varied.decode_eq_ok {shape : Shape α} {x x' : Source} (h : shape.Varied x x') {a : α}
    (decoded : shape.decode x.text = .ok a) : shape.decode x'.text = .ok a := by
  induction h with
  | refl => exact decoded
  | tail _ step ih =>
    rw [Shape.decode_text_eq_ok] at ih ⊢
    rwa [← step.value?_eq]

end Schema

end EntitlementClient
