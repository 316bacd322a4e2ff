/-
Values with the members of their objects in order: what stands under a name, that ordering once is
enough, and that it adds neither brackets nor numbers.
-/
import EntitlementClient.Proofs.Json.NameMap

namespace EntitlementClient.Json

/-! ## Induction over a value -/

/-- What holds of a value when it holds of all that its brackets hold, holds of every value. -/
@[elab_as_elim]
theorem induction {P : Json → Prop} (null : P .null) (bool : ∀ b, P (.bool b)) (number : ∀ n, P (.number n))
    (text : ∀ s, P (.text s)) (array : ∀ items, (∀ json ∈ items, P json) → P (.array items))
    (object : ∀ members, (∀ m ∈ members, P m.2) → P (.object members)) (json : Json) : P json :=
  @Json.rec P (fun items => ∀ json ∈ items, P json) (fun members => ∀ m ∈ members, P m.2) (fun m => P m.2)
    null bool number text array object
    (fun _ h => absurd h List.not_mem_nil) (fun _ _ head tail => List.forall_mem_cons.2 ⟨head, tail⟩)
    (fun _ h => absurd h List.not_mem_nil) (fun _ _ head tail => List.forall_mem_cons.2 ⟨head, tail⟩)
    (fun _ _ value => value) json

/-! ## Measures of a value -/

mutual

/-- How many brackets of a value are open at once. -/
def depth : Json → Nat
  | .array items => itemsDepth items + 1
  | .object members => membersDepth members + 1
  | _ => 0
termination_by structural json => json

/-- How many brackets of a list's items are open at once. -/
def itemsDepth : List Json → Nat
  | [] => 0
  | json :: rest => max json.depth (itemsDepth rest)
termination_by structural items => items

/-- How many brackets of an object's members are open at once. -/
def membersDepth : List (String × Json) → Nat
  | [] => 0
  | (_, json) :: rest => max json.depth (membersDepth rest)
termination_by structural members => members

end

mutual

/-- Whether all numbers of a value are integers. -/
def integral : Json → Bool
  | .number (.double _ _) => false
  | .array items => itemsIntegral items
  | .object members => membersIntegral members
  | _ => true
termination_by structural json => json

/-- Whether all numbers of a list's items are integers. -/
def itemsIntegral : List Json → Bool
  | [] => true
  | json :: rest => json.integral && itemsIntegral rest
termination_by structural items => items

/-- Whether all numbers of an object's members are integers. -/
def membersIntegral : List (String × Json) → Bool
  | [] => true
  | (_, json) :: rest => json.integral && membersIntegral rest
termination_by structural members => members

end

theorem itemsDepth_le {items : List Json} {d : Nat} : itemsDepth items ≤ d ↔ ∀ json ∈ items, json.depth ≤ d := by
  induction items with
  | nil => simp [itemsDepth]
  | cons json rest ih => rw [itemsDepth, Nat.max_le, ih, List.forall_mem_cons]

theorem membersDepth_le {members : List (String × Json)} {d : Nat} :
    membersDepth members ≤ d ↔ ∀ m ∈ members, m.2.depth ≤ d := by
  induction members with
  | nil => simp [membersDepth]
  | cons m rest ih => rw [membersDepth, Nat.max_le, ih, List.forall_mem_cons]

theorem itemsIntegral_iff {items : List Json} : itemsIntegral items = true ↔ ∀ json ∈ items, json.integral = true := by
  induction items with
  | nil => simp [itemsIntegral]
  | cons json rest ih => rw [itemsIntegral, Bool.and_eq_true, ih, List.forall_mem_cons]

theorem membersIntegral_iff {members : List (String × Json)} :
    membersIntegral members = true ↔ ∀ m ∈ members, m.2.integral = true := by
  induction members with
  | nil => simp [membersIntegral]
  | cons m rest ih => rw [membersIntegral, Bool.and_eq_true, ih, List.forall_mem_cons]

/-! ## Members in order -/

theorem sortedItems_eq_map (items : List Json) : sortedItems items = items.map sorted := by
  induction items with
  | nil => rfl
  | cons json rest ih => rw [sortedItems, ih, List.map_cons]

theorem sortedMembers_eq_foldl (members : List (String × Json)) (map : NameMap Json) :
    sortedMembers members map =
      (members.map fun m => (m.1, m.2.sorted)).foldl (fun map e => map.insert e.1 e.2) map := by
  induction members generalizing map with
  | nil => rfl
  | cons m rest ih => rw [sortedMembers, ih, List.map_cons, List.foldl_cons]

/-- A name stands for the last of its values. -/
theorem get?_sortedMembers (name : String) (members : List (String × Json)) :
    (sortedMembers members .empty).get? name = (valuesOf name members).getLast?.map sorted := by
  rw [sortedMembers_eq_foldl, NameMap.get?_foldl_insert, valuesOf_mapValues fun _ => sorted, NameMap.get?_empty,
    Option.or_none, List.getLast?_map]

theorem mem_sortedMembers {e : String × Json} : ∀ {members : List (String × Json)} {map : NameMap Json},
    e ∈ (sortedMembers members map).entries → e ∈ map.entries ∨ ∃ m ∈ members, e = (m.1, m.2.sorted)
  | [], _, h => .inl h
  | (name, json) :: rest, map, h => by
    rw [sortedMembers] at h
    rcases mem_sortedMembers h with h | ⟨m, hm, rfl⟩
    · rcases eq_or_mem_of_mem_insertByName h with rfl | h
      · exact .inr ⟨_, List.mem_cons_self, rfl⟩
      · exact .inl h
    · exact .inr ⟨m, List.mem_cons_of_mem _ hm, rfl⟩

theorem exists_of_mem_sortedMembers {e : String × Json} {members : List (String × Json)}
    (h : e ∈ (sortedMembers members .empty).entries) : ∃ m ∈ members, e = (m.1, m.2.sorted) :=
  (mem_sortedMembers h).resolve_left List.not_mem_nil

/-- Members whose values are in order and whose names increase are left as they are. -/
theorem sortedMembers_entries (map : NameMap Json) (h : ∀ e ∈ map.entries, e.2.sorted = e.2) :
    sortedMembers map.entries .empty = map := by
  refine NameMap.ext_get? fun name => ?_
  rw [get?_sortedMembers, NameMap.valuesOf_entries]
  cases found : map.get? name with
  | none => rfl
  | some json => exact congrArg some (h _ (NameMap.mem_entries.2 found))

/-! ## Values in order -/

/-- A value in order is left as it is. -/
@[simp] theorem sorted_sorted (json : Json) : json.sorted.sorted = json.sorted := by
  induction json using induction with
  | null | bool | number | text => rfl
  | array items ih =>
    simp only [sorted, sortedItems_eq_map, List.map_map]
    exact congrArg _ (List.map_congr_left ih)
  | object members ih =>
    simp only [sorted]
    rw [sortedMembers_entries]
    intro e he
    obtain ⟨m, hm, rfl⟩ := exists_of_mem_sortedMembers he
    exact ih m hm

theorem depth_sorted_le (json : Json) : json.sorted.depth ≤ json.depth := by
  induction json using induction with
  | null | bool | number | text => exact Nat.le_refl _
  | array items ih =>
    simp only [sorted, depth, sortedItems_eq_map]
    refine Nat.succ_le_succ (itemsDepth_le.2 ?_)
    rintro _ hs
    obtain ⟨json, hj, rfl⟩ := List.mem_map.1 hs
    exact Nat.le_trans (ih json hj) (itemsDepth_le.1 (Nat.le_refl _) json hj)
  | object members ih =>
    simp only [sorted, depth]
    refine Nat.succ_le_succ (membersDepth_le.2 ?_)
    intro e he
    obtain ⟨m, hm, rfl⟩ := exists_of_mem_sortedMembers he
    exact Nat.le_trans (ih m hm) (membersDepth_le.1 (Nat.le_refl _) m hm)

theorem integral_sorted {json : Json} (h : json.integral = true) : json.sorted.integral = true := by
  induction json using induction with
  | null | bool | number | text => exact h
  | array items ih =>
    simp only [sorted, integral, sortedItems_eq_map] at h ⊢
    refine itemsIntegral_iff.2 ?_
    rintro _ hs
    obtain ⟨json, hj, rfl⟩ := List.mem_map.1 hs
    exact ih json hj (itemsIntegral_iff.1 h json hj)
  | object members ih =>
    simp only [sorted, integral] at h ⊢
    refine membersIntegral_iff.2 ?_
    intro e he
    obtain ⟨m, hm, rfl⟩ := exists_of_mem_sortedMembers he
    exact ih m hm (membersIntegral_iff.1 h m hm)

end EntitlementClient.Json
