/-
Members that are added to an object whose members are kept where they are no fields: the fields stay as they
are, and what is kept grows by what has been added and nothing else.
-/
import EntitlementClient.Proofs.Schema.Variation

namespace EntitlementClient

open EntitlementClient.Json

namespace Schema

variable {α β : Type}

/-- Whether members have been added to others, and what they hold: members with new names that are not among the
given ones, whose values can be decoded where `d` more brackets may be opened. -/
inductive Added (names : List String) (d : Nat) (members : List (Key × Source)) :
    List (Key × Source) → List (String × Json) → Prop
  | nothing : Added names d members members []
  | member (before after : List (Key × Source)) {entries : List (String × Json)} {key : Key} {name : String}
      {x : Source} {json : Json} (earlier : Added names d members (before ++ after) entries)
      (named : key.name? = some name) (unmodelled : name ∉ names) (fresh : some name ∉ memberNames (before ++ after))
      (value : (Shape.json.reader d).value? x = some json) :
    Added names d members (before ++ (key, x) :: after) ((name, json) :: entries)

variable {fields : Fields β} {d : Nat}

/-- A member that is no field is kept. -/
theorem Fields.placeOpen?_of_not_mem {name : String} (h : name ∉ fields.wireNames) {x : Source} {json : Json}
    (value : (valueReader d).value? x = some json) (state : fields.Slots × NameMap Json) :
    fields.placeOpen? d name x state = some (state.1, state.2.insert name json) := by
  rw [placeOpen?, if_neg h, value]
  rfl

/-- What is kept under a name is changed by a member of that name alone. -/
theorem Fields.get?_placeOpen? {m name : String} (ne : m ≠ name) {x : Source}
    {state next : fields.Slots × NameMap Json} (h : fields.placeOpen? d m x state = some next) :
    next.2.get? name = state.2.get? name := by
  unfold placeOpen? at h
  split at h
  · obtain ⟨slots, -, rfl⟩ := Option.map_eq_some_iff.1 h
    rfl
  · obtain ⟨extra, inserted, rfl⟩ := Option.map_eq_some_iff.1 h
    obtain ⟨json, -, rfl⟩ := Option.map_eq_some_iff.1 inserted
    exact NameMap.get?_insert_of_ne (Ne.symm ne) _ _

theorem Fields.get?_foldlM_openUse {name : String} {members : List (Key × Source)}
    (fresh : some name ∉ memberNames members) {state final : fields.Slots × NameMap Json}
    (h : members.foldlM (memberStep (fields.openUse d)) state = some final) :
    final.2.get? name = state.2.get? name :=
  (fields.places_openUse d).foldlM_keeps (fun now => now.2.get? name = state.2.get? name)
    (fun _ ne _ _ _ same placed => (get?_placeOpen? ne placed).trans same) fresh rfl h

/-- A member with a new name that is no field may be put in place last. -/
theorem Fields.foldlM_openUse_add {before after : List (Key × Source)} {key : Key} {name : String}
    (named : key.name? = some name) (unmodelled : name ∉ fields.wireNames)
    (fresh : some name ∉ memberNames (before ++ after)) {x : Source} {json : Json}
    (value : (valueReader d).value? x = some json) (state : fields.Slots × NameMap Json) :
    (before ++ (key, x) :: after).foldlM (memberStep (fields.openUse d)) state =
      ((before ++ after).foldlM (memberStep (fields.openUse d)) state).map fun state =>
        (state.1, state.2.insert name json) := by
  have either m n ne x y := fields.interchange_placeOpen? d (m := m) (n := n) ne x y
  rw [(fields.places_openUse d).foldlM_fresh either named fresh, Option.map_eq_bind]
  exact congrArg _ (funext fun state => placeOpen?_of_not_mem unmodelled value state)

/-- What is decoded of an object after members have been added. -/
theorem Added.ofOpen? {members members' : List (Key × Source)} {entries : List (String × Json)}
    (h : Added fields.wireNames d members members' entries) {row : β} {extra : NameMap Json}
    (found : fields.ofOpen? d members = some (row, extra)) :
    ∃ kept : NameMap Json, fields.ofOpen? d members' = some (row, kept) ∧
      kept.entries.Perm (entries ++ extra.entries) := by
  induction h with
  | nothing => exact ⟨extra, found, .refl _⟩
  | @member before after entries key name x json _ named unmodelled fresh value ih =>
    obtain ⟨kept, found, perm⟩ := ih
    rw [Shape.reader] at value
    obtain ⟨state, read, finished⟩ := Option.bind_eq_some_iff.1 found
    obtain ⟨row, finish, eq⟩ := Option.map_eq_some_iff.1 finished
    cases eq
    -- nothing is kept under a new name before, so that one more entry is all that is inserted
    have absent : state.2.get? name = none := (Fields.get?_foldlM_openUse fresh read).trans (NameMap.get?_empty name)
    refine ⟨state.2.insert name json, ?_, (NameMap.perm_entries_insert absent json).trans (perm.cons _)⟩
    rw [Fields.ofOpen?, Fields.foldlM_openUse_add named unmodelled fresh value, read]
    simp only [Option.map_some, Option.bind_some, finish]

variable {model extra : String} {form : Form α (β × NameMap Json)}

/-- What a reader reads of an object after members have been added. -/
theorem Added.value? {members members' : List (Key × Source)} {entries : List (String × Json)}
    (h : Added fields.wireNames (d - 1) members members' entries) {pad : Pad} {inside : Blanks} {a : α}
    (found : ((Shape.openRecord model fields extra form).reader d).value? (.object pad inside members) = some a) :
    ∃ kept : NameMap Json,
      ((Shape.openRecord model fields extra form).reader d).value? (.object pad inside members') =
        some (form.ofFields ((form.fields a).1, kept)) ∧
      kept.entries.Perm (entries ++ (form.fields a).2.entries) := by
  have means := Shape.means_openRecord fields.isLocal model extra form d
  rw [means.value?_eq, Source.ofBrackets] at found ⊢
  split at found
  · cases found
  · next pos =>
    obtain ⟨⟨row, others⟩, read, rfl⟩ := Option.map_eq_some_iff.1 found
    obtain ⟨kept, read', perm⟩ := h.ofOpen? read
    rw [form.fields_ofFields]
    refine ⟨kept, ?_, perm⟩
    rw [if_neg pos, read']
    rfl

/-- An item of a list stands for one of its values, whatever the other items are. -/
theorem Shape.exists_of_value?_list {item : Shape α} {pad : Pad} {inside : Blanks} {before after : List Source}
    {x : Source} {values : List α}
    (h : ((Shape.list item).reader d).value? (.array pad inside (before ++ x :: after)) = some values) :
    ∃ first a rest, values = first ++ a :: rest ∧ first.length = before.length ∧
      (item.reader (d - 1)).value? x = some a ∧
      ∀ x' a', (item.reader (d - 1)).value? x' = some a' →
        ((Shape.list item).reader d).value? (.array pad inside (before ++ x' :: after)) =
          some (first ++ a' :: rest) := by
  have means := Shape.means_list (item.isLocal (d - 1))
  rw [means.value?_eq, Source.ofBrackets] at h
  split at h
  · cases h
  · next pos =>
    rw [List.mapM_append] at h
    obtain ⟨first, readFirst, h⟩ := Option.bind_eq_some_iff.1 h
    obtain ⟨others, readOthers, h⟩ := Option.bind_eq_some_iff.1 h
    rw [List.mapM_cons] at readOthers
    obtain ⟨a, read, readOthers⟩ := Option.bind_eq_some_iff.1 readOthers
    obtain ⟨rest, readRest, eq⟩ := Option.bind_eq_some_iff.1 readOthers
    cases eq
    cases h
    refine ⟨first, a, rest, rfl, (mapM_eq_some_iff.1 readFirst).length_eq.symm, read, fun x' a' read' => ?_⟩
    rw [means.value?_eq, Source.ofBrackets, if_neg pos, List.mapM_append, List.mapM_cons, readFirst, read', readRest]
    rfl

end Schema

end EntitlementClient
