/-
Members of an object are put in place one by one. Members that fill different places may change places
themselves, and a member that fills none may be left out.
-/
import EntitlementClient.Proofs.Schema.Local

namespace EntitlementClient

open EntitlementClient.Json

/-! ## Partial steps -/

section Steps

variable {α σ τ : Type}

/-- Whether two partial steps may be taken in either order. -/
def Interchange (f g : σ → Option σ) : Prop :=
  ∀ s, (f s).bind g = (g s).bind f

theorem Interchange.refl (f : σ → Option σ) : Interchange f f :=
  fun _ => rfl

theorem Interchange.symm {f g : σ → Option σ} (h : Interchange f g) : Interchange g f :=
  fun s => (h s).symm

theorem Interchange.none_left (g : σ → Option σ) : Interchange (fun _ => none) g :=
  fun s => by cases g s <;> rfl

/-- The step of the first of two parts of a state. -/
def onFirst (f : σ → Option σ) (p : σ × τ) : Option (σ × τ) :=
  (f p.1).map fun s => (s, p.2)

/-- The step of the second of two parts of a state. -/
def onSecond (g : τ → Option τ) (p : σ × τ) : Option (σ × τ) :=
  (g p.2).map fun t => (p.1, t)

theorem interchange_parts (f : σ → Option σ) (g : τ → Option τ) : Interchange (onFirst f) (onSecond g) := by
  rintro ⟨s, t⟩
  cases first : f s <;> cases second : g t <;> simp [onFirst, onSecond, first, second]

theorem Interchange.onFirst {f g : σ → Option σ} (h : Interchange f g) :
    Interchange (onFirst f : σ × τ → Option (σ × τ)) (onFirst g) := by
  rintro ⟨s, t⟩
  have either := congrArg (Option.map fun s => (s, t)) (h s)
  simpa only [EntitlementClient.onFirst, Option.bind_map, Option.map_bind, Function.comp_def] using either

theorem Interchange.onSecond {f g : τ → Option τ} (h : Interchange f g) :
    Interchange (onSecond f : σ × τ → Option (σ × τ)) (onSecond g) := by
  rintro ⟨s, t⟩
  have either := congrArg (Option.map fun t => (s, t)) (h t)
  simpa only [EntitlementClient.onSecond, Option.bind_map, Option.map_bind, Function.comp_def] using either

variable {step : σ → α → Option σ}

/-- Steps any two of which may be taken in either order may all be taken in any order. -/
theorem foldlM_perm {l l' : List α} (perm : l.Perm l')
    (h : ∀ a ∈ l, ∀ b ∈ l, Interchange (fun s => step s a) (fun s => step s b)) (s : σ) :
    l.foldlM step s = l'.foldlM step s := by
  induction perm generalizing s with
  | nil => rfl
  | cons a _ ih =>
    rw [List.foldlM_cons, List.foldlM_cons]
    exact bind_congr fun s => ih (fun b hb c hc => h b (List.mem_cons_of_mem _ hb) c (List.mem_cons_of_mem _ hc)) s
  | swap a b l =>
    have either := h b List.mem_cons_self a (List.mem_cons_of_mem _ List.mem_cons_self) s
    simp only [List.foldlM_cons, Option.bind_eq_bind, ← Option.bind_assoc, either]
  | trans first _ ih ih' =>
    exact (ih h s).trans (ih' (fun a ha b hb => h a (first.mem_iff.2 ha) b (first.mem_iff.2 hb)) s)

/-- A step may be taken last that may be taken after each of the others. -/
theorem foldlM_last {a : α} {l : List α} (h : ∀ b ∈ l, Interchange (fun s => step s a) (fun s => step s b)) (s : σ) :
    (a :: l).foldlM step s = (l.foldlM step s).bind fun s => step s a := by
  induction l generalizing s with
  | nil => rw [List.foldlM_cons]; exact bind_pure (step s a)
  | cons b l ih =>
    obtain ⟨first, rest⟩ := List.forall_mem_cons.1 h
    calc (a :: b :: l).foldlM step s
        = ((step s a).bind fun s => step s b).bind fun s => l.foldlM step s := (Option.bind_assoc _ _ _).symm
      _ = (step s b).bind fun s => (a :: l).foldlM step s := by rw [first s]; exact Option.bind_assoc _ _ _
      _ = ((b :: l).foldlM step s).bind fun s => step s a := by
          simp only [ih rest, List.foldlM_cons, Option.bind_eq_bind, Option.bind_assoc]

end Steps

namespace Json

variable {σ τ : Type}

theorem MemberUse.value?_map (f : σ → τ) (use : MemberUse σ) (state : σ) (x : Source) :
    (use.map f).value? (f state) x = (use.value? state x).map f := by
  cases use with
  | take reader => exact Reader.value?_map f reader x
  | pass => rfl
  | repeated => rfl

/-- Whether what is done with a member is a step that its name and its value tell. -/
def Places (use : σ → String → MemberUse σ) (place : String → Source → σ → Option σ) : Prop :=
  ∀ state name x, (use state name).value? state x = place name x state

variable {use : σ → String → MemberUse σ} {place : String → Source → σ → Option σ}

theorem Places.memberStep_eq (h : Places use place) {m : Key × Source} {name : String} (named : m.1.name? = some name) :
    (fun state => memberStep use state m) = place name m.2 :=
  funext fun state => by rw [memberStep, named, Option.bind_some, h]

theorem memberStep_of_name?_eq_none {m : Key × Source} (h : m.1.name? = none) :
    (fun state => memberStep use state m) = fun _ => none :=
  funext fun state => by rw [memberStep, h, Option.bind_none]

/-- Members may be read in either order if they may be put in place in either order. -/
theorem Places.interchange (h : Places use place) {a b : Key × Source}
    (either : ∀ m n, a.1.name? = some m → b.1.name? = some n → Interchange (place m a.2) (place n b.2)) :
    Interchange (fun state => memberStep use state a) (fun state => memberStep use state b) := by
  cases ha : a.1.name? with
  | none => rw [memberStep_of_name?_eq_none ha]; exact .none_left _
  | some m =>
    cases hb : b.1.name? with
    | none => rw [memberStep_of_name?_eq_none hb]; exact (Interchange.none_left _).symm
    | some n => rw [h.memberStep_eq ha, h.memberStep_eq hb]; exact either m n ha hb

/-- A member that leaves every state as it is may be left out. -/
theorem Places.foldlM_insert (h : Places use place) {key : Key} {name : String} (named : key.name? = some name)
    {x : Source} (passed : ∀ state, place name x state = some state) (before after : List (Key × Source)) (state : σ) :
    (before ++ (key, x) :: after).foldlM (memberStep use) state = (before ++ after).foldlM (memberStep use) state := by
  have step : ∀ state, memberStep use state (key, x) = some state := fun state =>
    (congrFun (h.memberStep_eq (m := (key, x)) named) state).trans (passed state)
  simp only [List.foldlM_append, List.foldlM_cons, step, Option.bind_eq_bind, Option.bind_some]

/-- The names of members as they are read. -/
def memberNames (members : List (Key × Source)) : List (Option String) :=
  members.map fun m => m.1.name?

/-- Members with distinct names may be read in any order if members with two names may be put in place in
either order. -/
theorem Places.foldlM_perm (h : Places use place)
    (either : ∀ m n, m ≠ n → ∀ x y, Interchange (place m x) (place n y)) {members members' : List (Key × Source)}
    (distinct : (memberNames members).Nodup) (perm : members.Perm members') (state : σ) :
    members.foldlM (memberStep use) state = members'.foldlM (memberStep use) state := by
  refine EntitlementClient.foldlM_perm perm (fun a ha b hb => ?_) state
  -- members of one name are one member, and a step may be taken in either order with itself
  by_cases same : a.1.name? = b.1.name?
  · rw [List.inj_on_of_nodup_map distinct ha hb same]
    exact .refl _
  · refine h.interchange fun m n hm hn => either m n ?_ a.2 b.2
    rintro rfl
    exact same (hm.trans hn.symm)

/-- A member of a new name may be read last if members with two names may be put in place in either order. -/
theorem Places.foldlM_fresh (h : Places use place)
    (either : ∀ m n, m ≠ n → ∀ x y, Interchange (place m x) (place n y)) {key : Key} {name : String}
    (named : key.name? = some name) {before after : List (Key × Source)}
    (fresh : some name ∉ memberNames (before ++ after)) (x : Source) (state : σ) :
    (before ++ (key, x) :: after).foldlM (memberStep use) state =
      ((before ++ after).foldlM (memberStep use) state).bind (place name x) := by
  have step : (fun state => memberStep use state (key, x)) = place name x := h.memberStep_eq (m := (key, x)) named
  -- only the members after the new one are to be passed, and none of them has its name
  have last (state : σ) : ((key, x) :: after).foldlM (memberStep use) state =
      (after.foldlM (memberStep use) state).bind (place name x) := by
    rw [← step]
    refine foldlM_last (fun b hb => h.interchange fun m n hm hn => either m n ?_ x b.2) state
    rintro rfl
    cases named.symm.trans hm
    exact fresh (List.mem_map.2 ⟨b, List.mem_append_right before hb, hn⟩)
  rw [List.foldlM_append, List.foldlM_append]
  simp only [last, Option.bind_eq_bind, Option.bind_assoc]

/-- What every member of another name keeps is kept by members none of which has the name. -/
theorem Places.foldlM_keeps (h : Places use place) (kept : σ → Prop) {name : String}
    (each : ∀ m, m ≠ name → ∀ x state next, kept state → place m x state = some next → kept next)
    {members : List (Key × Source)} (fresh : some name ∉ memberNames members) {state final : σ} (start : kept state)
    (read : members.foldlM (memberStep use) state = some final) : kept final := by
  induction members generalizing state with
  | nil =>
    cases read
    exact start
  | cons m members ih =>
    obtain ⟨ne, fresh⟩ := not_or.1 (mt List.mem_cons.2 fresh)
    rw [List.foldlM_cons] at read
    obtain ⟨next, step, read⟩ := Option.bind_eq_some_iff.1 read
    obtain ⟨n, named, placed⟩ := Option.bind_eq_some_iff.1 step
    rw [h] at placed
    have other : n ≠ name := fun eq => ne (named.trans (congrArg some eq)).symm
    exact ih fresh (each n other m.2 state next start placed) read

end Json

namespace NameMap

variable {α : Type}

/-- The map after one more value, if it is one. -/
def insert? (name : String) (value : Option α) (map : NameMap α) : Option (NameMap α) :=
  value.map (map.insert name)

theorem interchange_insert? {m n : String} (h : m ≠ n) (a b : Option α) : Interchange (insert? m a) (insert? n b) := by
  intro map
  cases a <;> cases b <;> simp [insert?, insert_comm h]

end NameMap

namespace Schema

variable {α β : Type}

/-! ## Fields -/

/-- The slot of a field after one more value of it, which is one too many if there has been one. -/
def Field.place? (field : Field α) (d : Nat) (x : Source) : Option α → Option (Option α)
  | some _ => none
  | none => ((field.reader d).value? x).map some

/-- The slots of a record after one more member. -/
def Fields.place? : {β : Type} → (fields : Fields β) → Nat → String → Source → fields.Slots → Option fields.Slots
  | _, .nil, _, _, _ => some
  | _, .cons field rest, d, name, x =>
    if field.name.wire = name then onFirst (field.place? d x) else onSecond (rest.place? d name x)

theorem Fields.place?_head {field : Field α} {name : String} (h : field.name.wire = name) (rest : Fields β) (d : Nat)
    (x : Source) : (Fields.cons field rest).place? d name x = onFirst (field.place? d x) := by
  rw [place?]
  exact if_pos h

theorem Fields.place?_tail {field : Field α} {name : String} (h : field.name.wire ≠ name) (rest : Fields β) (d : Nat)
    (x : Source) : (Fields.cons field rest).place? d name x = onSecond (rest.place? d name x) := by
  rw [place?]
  exact if_neg h

theorem Fields.value?_use : {β : Type} → (fields : Fields β) → (d : Nat) → (name : String) → (x : Source) →
    (slots : fields.Slots) → (fields.use d slots name).value? slots x = fields.place? d name x slots
  | _, .nil, _, _, _, _ => by
    rw [use, place?]
    rfl
  | _, .cons (α := α) field rest, d, name, x, slots => by
    rw [use]
    obtain ⟨slot, slots⟩ : Option α × rest.Slots := slots
    split
    · next eq =>
      rw [place?_head eq]
      cases slot with
      | some a => rfl
      | none =>
        refine (Reader.value?_map _ (field.reader d) x).trans ?_
        rw [onFirst, Field.place?]
        cases (field.reader d).value? x <;> rfl
    · next ne =>
      rw [place?_tail ne, onSecond, ← value?_use rest d name x slots]
      exact MemberUse.value?_map (fun others => (slot, others)) (rest.use d slots name) slots x

/-- A member that is no field is passed over. -/
theorem Fields.place?_of_not_mem {fields : Fields β} (d : Nat) {name : String} (x : Source) (slots : fields.Slots)
    (h : name ∉ fields.wireNames) : fields.place? d name x slots = some slots := by
  rw [← fields.value?_use, fields.use_of_not_mem d slots name h]
  rfl

/-- Two values of one field are one too many, in either order. -/
theorem Field.interchange_place? (field : Field α) (d : Nat) (x y : Source) :
    Interchange (field.place? d x) (field.place? d y) := by
  intro slot
  cases slot with
  | some a => rfl
  | none =>
    simp only [place?]
    cases (field.reader d).value? x <;> cases (field.reader d).value? y <;> rfl

theorem Fields.interchange_place? : {β : Type} → (fields : Fields β) → (d : Nat) → (m n : String) → (x y : Source) →
    Interchange (fields.place? d m x) (fields.place? d n y)
  | _, .nil, _, _, _, _, _ => .refl some
  | _, .cons field rest, d, m, n, x, y => by
    by_cases hm : field.name.wire = m <;> by_cases hn : field.name.wire = n
    · rw [place?_head hm, place?_head hn]
      exact (field.interchange_place? d x y).onFirst
    · rw [place?_head hm, place?_tail hn]
      exact interchange_parts _ _
    · rw [place?_tail hm, place?_head hn]
      exact (interchange_parts _ _).symm
    · rw [place?_tail hm, place?_tail hn]
      exact (rest.interchange_place? d m n x y).onSecond

theorem Fields.places_use (fields : Fields β) (d : Nat) : Places (fields.use d) (fields.place? d) :=
  fun slots name x => fields.value?_use d name x slots

/-- The members of a record may be read in any order, whatever their names. -/
theorem Fields.foldlM_use_perm (fields : Fields β) (d : Nat) {members members' : List (Key × Source)}
    (perm : members.Perm members') (slots : fields.Slots) :
    members.foldlM (memberStep (fields.use d)) slots = members'.foldlM (memberStep (fields.use d)) slots :=
  foldlM_perm perm (fun a _ b _ =>
    (fields.places_use d).interchange fun m n _ _ => fields.interchange_place? d m n a.2 b.2) slots

/-! ## Members that are kept in a map -/

/-- The slots of a record and the members that are no fields, after one more member. -/
def Fields.placeOpen? (fields : Fields β) (d : Nat) (name : String) (x : Source) :
    fields.Slots × NameMap Json → Option (fields.Slots × NameMap Json) :=
  if name ∈ fields.wireNames then onFirst (fields.place? d name x)
  else onSecond (NameMap.insert? name ((valueReader d).value? x))

theorem Fields.places_openUse (fields : Fields β) (d : Nat) : Places (fields.openUse d) (fields.placeOpen? d) := by
  rintro ⟨slots, extra⟩ name x
  rw [openUse, placeOpen?]
  by_cases mem : name ∈ fields.wireNames
  · rw [if_pos mem, onFirst, ← fields.value?_use]
    split
    · next pass => exact absurd mem (fields.use_eq_pass d slots name pass)
    · exact MemberUse.value?_map (fun slots => (slots, extra)) (fields.use d slots name) slots x
  · rw [if_neg mem, onSecond, fields.use_of_not_mem d slots name mem]
    refine (Reader.value?_map _ (valueReader d) x).trans ?_
    rw [NameMap.insert?, Option.map_map]
    rfl

theorem Fields.interchange_placeOpen? (fields : Fields β) (d : Nat) {m n : String} (h : m ≠ n) (x y : Source) :
    Interchange (fields.placeOpen? d m x) (fields.placeOpen? d n y) := by
  rw [placeOpen?, placeOpen?]
  split <;> split
  · exact (fields.interchange_place? d m n x y).onFirst
  · exact interchange_parts _ _
  · exact (interchange_parts _ _).symm
  · exact (NameMap.interchange_insert? h _ _).onSecond

theorem places_textsUse :
    Places textsUse fun name x => NameMap.insert? name ((scalarReader .text pickText).value? x) :=
  fun map name x => Reader.value?_map (map.insert name) (scalarReader .text pickText) x

end Schema

end EntitlementClient
