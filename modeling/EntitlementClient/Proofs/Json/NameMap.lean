/-
Laws of the maps from names: looking a name up after a value has been put in, and that a map is
known by what its names stand for.
-/
import EntitlementClient.Json.Basic
import Mathlib.Data.List.Sort

namespace EntitlementClient

variable {α : Type}

theorem find?_insertByName_self (name : String) (value : α) : ∀ entries : List (String × α),
    (insertByName name value entries).find? (fun e => e.1 == name) = some (name, value)
  | [] => by simp [insertByName]
  | (n, v) :: rest => by
    rw [insertByName]
    split
    · simp
    · split
      · next lt =>
        have hn : (n == name) = false := beq_false_of_ne (String.ne_of_lt lt)
        simp only [List.find?_cons, hn]
        exact find?_insertByName_self name value rest
      · simp

theorem find?_insertByName_of_ne {name n : String} (h : n ≠ name) (value : α) : ∀ entries : List (String × α),
    (insertByName name value entries).find? (fun e => e.1 == n) = entries.find? (fun e => e.1 == n)
  | [] => by simp [insertByName, h.symm]
  | (m, v) :: rest => by
    have hn : (name == n) = false := beq_false_of_ne h.symm
    rw [insertByName]
    split
    · simp only [List.find?_cons, hn]
    · next ge =>
      split
      · simp only [List.find?_cons, find?_insertByName_of_ne h value rest]
      · next le =>
        have hm : name = m := String.le_antisymm (String.not_lt.1 le) (String.not_lt.1 ge)
        subst hm
        simp only [List.find?_cons, hn]

theorem eq_or_mem_of_mem_insertByName {name : String} {value : α} {e : String × α} :
    ∀ {entries : List (String × α)}, e ∈ insertByName name value entries → e = (name, value) ∨ e ∈ entries
  | [], h => .inl (by simpa [insertByName] using h)
  | (n, v) :: rest, h => by
    rw [insertByName] at h
    split at h
    · exact List.mem_cons.1 h
    · split at h
      · rcases List.mem_cons.1 h with rfl | h
        · exact .inr List.mem_cons_self
        · exact (eq_or_mem_of_mem_insertByName h).imp_right (List.mem_cons_of_mem _)
      · exact (List.mem_cons.1 h).imp_right (List.mem_cons_of_mem _)

/-! ## The values under a name -/

/-- The values that stand under a name, in their order. -/
def valuesOf (name : String) (entries : List (String × α)) : List α :=
  (entries.filter fun e => e.1 == name).map (·.2)

@[simp] theorem valuesOf_nil (name : String) : valuesOf name ([] : List (String × α)) = [] := rfl

@[simp] theorem valuesOf_cons_self (name : String) (value : α) (entries : List (String × α)) :
    valuesOf name ((name, value) :: entries) = value :: valuesOf name entries := by
  simp [valuesOf]

theorem valuesOf_cons_of_ne {name n : String} (h : n ≠ name) (value : α) (entries : List (String × α)) :
    valuesOf name ((n, value) :: entries) = valuesOf name entries := by
  simp [valuesOf, h]

@[simp] theorem valuesOf_append (name : String) (a b : List (String × α)) :
    valuesOf name (a ++ b) = valuesOf name a ++ valuesOf name b := by
  simp [valuesOf]

theorem mem_valuesOf {name : String} {value : α} {entries : List (String × α)} :
    value ∈ valuesOf name entries ↔ (name, value) ∈ entries := by
  simp [valuesOf]

theorem valuesOf_eq_nil {name : String} {entries : List (String × α)} (h : ∀ e ∈ entries, e.1 ≠ name) :
    valuesOf name entries = [] := by
  rw [valuesOf, List.map_eq_nil_iff, List.filter_eq_nil_iff]
  exact fun e he => by simpa using h e he

theorem filter_eq_map_valuesOf (name : String) (entries : List (String × α)) :
    entries.filter (fun e => e.1 = name) = (valuesOf name entries).map fun value => (name, value) := by
  induction entries with
  | nil => rfl
  | cons e rest ih =>
    obtain ⟨n, value⟩ := e
    by_cases eq : n = name
    · subst eq
      simp [ih]
    · simp [eq, ih, valuesOf_cons_of_ne eq]

theorem valuesOf_filter (name : String) (p : String × α → Bool) (entries : List (String × α)) :
    valuesOf name (entries.filter p) = (valuesOf name entries).filter fun value => p (name, value) := by
  induction entries with
  | nil => rfl
  | cons e rest ih =>
    obtain ⟨n, value⟩ := e
    by_cases eq : n = name
    · subst eq
      cases kept : p (n, value) <;> simp [kept, ih]
    · cases kept : p (n, value) <;> simp [kept, ih, valuesOf_cons_of_ne eq]

theorem valuesOf_mapValues {β : Type} (f : String → α → β) (name : String) (entries : List (String × α)) :
    valuesOf name (entries.map fun e => (e.1, f e.1 e.2)) = (valuesOf name entries).map (f name) := by
  induction entries with
  | nil => rfl
  | cons e rest ih =>
    obtain ⟨n, value⟩ := e
    by_cases eq : n = name
    · subst eq
      rw [List.map_cons, valuesOf_cons_self, valuesOf_cons_self, List.map_cons, ih]
    · rw [List.map_cons, valuesOf_cons_of_ne eq, valuesOf_cons_of_ne eq, ih]

/-- Among entries with increasing names at most one has a name. -/
theorem IncreasingNames.valuesOf_eq {entries : List (String × α)} (h : IncreasingNames entries) (name : String) :
    valuesOf name entries = ((entries.find? fun e => e.1 == name).map (·.2)).toList := by
  induction entries with
  | nil => rfl
  | cons e rest ih =>
    obtain ⟨n, v⟩ := e
    obtain ⟨first, tail⟩ := List.pairwise_cons.1 h
    by_cases hn : n = name
    · subst hn
      have none_after : ∀ e ∈ rest, e.1 ≠ n := fun e he => (String.ne_of_lt (first e he)).symm
      rw [valuesOf_cons_self, valuesOf_eq_nil none_after]
      simp
    · rw [valuesOf_cons_of_ne hn, ih tail]
      simp [hn]

theorem IncreasingNames.filter {entries : List (String × α)} (h : IncreasingNames entries) (p : String × α → Bool) :
    IncreasingNames (entries.filter p) :=
  List.Pairwise.filter p h

theorem IncreasingNames.mapValues {β : Type} {entries : List (String × α)} (h : IncreasingNames entries)
    (f : String → α → β) : IncreasingNames (entries.map fun e => (e.1, f e.1 e.2)) := by
  rw [IncreasingNames, List.pairwise_map]
  exact h

namespace NameMap

theorem valuesOf_entries (map : NameMap α) (name : String) : valuesOf name map.entries = (map.get? name).toList :=
  map.increasing.valuesOf_eq name

theorem get?_eq_getLast? (map : NameMap α) (name : String) : map.get? name = (valuesOf name map.entries).getLast? := by
  rw [valuesOf_entries]
  cases map.get? name <;> rfl

theorem mem_entries {map : NameMap α} {name : String} {value : α} :
    (name, value) ∈ map.entries ↔ map.get? name = some value := by
  rw [← mem_valuesOf, valuesOf_entries, Option.mem_toList]

/-- Two maps in which every name stands for the same are one map. -/
theorem ext_get? {a b : NameMap α} (h : ∀ name, a.get? name = b.get? name) : a = b := by
  have irreflexive : Std.Irrefl fun x y : String × α => x.1 < y.1 := ⟨fun x => String.lt_irrefl x.1⟩
  have antisymmetric : Std.Antisymm fun x y : String × α => x.1 < y.1 :=
    ⟨fun x y lt gt => absurd (String.lt_trans lt gt) (String.lt_irrefl x.1)⟩
  exact ext (List.Pairwise.eq_of_mem_iff a.increasing b.increasing fun e => by rw [mem_entries, mem_entries, h])

@[simp] theorem get?_empty (name : String) : (empty : NameMap α).get? name = none := rfl

@[simp] theorem get?_insert_self (map : NameMap α) (name : String) (value : α) :
    (map.insert name value).get? name = some value := by
  simp only [get?, insert, find?_insertByName_self, Option.map_some]

theorem get?_insert_of_ne {name n : String} (h : n ≠ name) (map : NameMap α) (value : α) :
    (map.insert name value).get? n = map.get? n := by
  simp only [get?, insert, find?_insertByName_of_ne h]

/-- Values under two names may be put in in either order. -/
theorem insert_comm {m n : String} (h : m ≠ n) (map : NameMap α) (a b : α) :
    (map.insert m a).insert n b = (map.insert n b).insert m a := by
  refine ext_get? fun name => ?_
  by_cases hm : name = m
  · subst hm
    rw [get?_insert_of_ne h, get?_insert_self, get?_insert_self]
  · by_cases hn : name = n
    · subst hn
      rw [get?_insert_self, get?_insert_of_ne hm, get?_insert_self]
    · rw [get?_insert_of_ne hn, get?_insert_of_ne hm, get?_insert_of_ne hm, get?_insert_of_ne hn]

/-- A value under a new name is one more entry. -/
theorem perm_entries_insert {map : NameMap α} {name : String} (fresh : map.get? name = none) (value : α) :
    (map.insert name value).entries.Perm ((name, value) :: map.entries) := by
  have insert : ∀ entries : List (String × α), (∀ e ∈ entries, e.1 ≠ name) →
      (insertByName name value entries).Perm ((name, value) :: entries) := by
    intro entries ne
    induction entries with
    | nil => rfl
    | cons e rest ih =>
      obtain ⟨n, v⟩ := e
      obtain ⟨first, ne⟩ := List.forall_mem_cons.1 ne
      rw [insertByName]
      split
      · rfl
      · next ge =>
        split
        · exact ((ih ne).cons _).trans (.swap _ _ _)
        · next le => exact absurd (String.le_antisymm (String.not_lt.1 ge) (String.not_lt.1 le)) first
  refine insert map.entries fun e he eq => ?_
  have found := mem_entries.1 (show (e.1, e.2) ∈ map.entries from he)
  rw [eq, fresh] at found
  cases found

/-- After entries have been put in one by one a name stands for the last of its values, or for what it
has stood for before. -/
theorem get?_foldl_insert (name : String) (entries : List (String × α)) (map : NameMap α) :
    (entries.foldl (fun map e => map.insert e.1 e.2) map).get? name =
      (valuesOf name entries).getLast?.or (map.get? name) := by
  induction entries generalizing map with
  | nil => simp
  | cons e rest ih =>
    obtain ⟨n, value⟩ := e
    rw [List.foldl_cons, ih]
    by_cases h : n = name
    · subst h
      rw [valuesOf_cons_self, get?_insert_self, List.getLast?_cons]
      cases (valuesOf n rest).getLast? <;> rfl
    · rw [valuesOf_cons_of_ne h, get?_insert_of_ne (Ne.symm h)]

/-- An entry that stands in a map after others have been put in is one of them, or has stood there before. -/
theorem mem_of_mem_foldl_insert {e : String × α} (entries : List (String × α)) (map : NameMap α)
    (h : e ∈ (entries.foldl (fun map e => map.insert e.1 e.2) map).entries) : e ∈ entries ∨ e ∈ map.entries := by
  induction entries generalizing map with
  | nil => exact .inr h
  | cons first rest ih =>
    rcases ih (map.insert first.1 first.2) h with later | before
    · exact .inl (List.mem_cons_of_mem first later)
    · rcases eq_or_mem_of_mem_insertByName before with rfl | before
      · exact .inl List.mem_cons_self
      · exact .inr before

theorem ofList_entries (map : NameMap α) : ofList map.entries = map := by
  refine ext_get? fun name => ?_
  rw [ofList, get?_foldl_insert, valuesOf_entries, get?_empty, Option.or_none]
  cases map.get? name <;> rfl

/-! ## Other values under the same names -/

/-- The map with another value under every name. -/
def mapValues {β : Type} (f : α → β) (map : NameMap α) : NameMap β :=
  ⟨map.entries.map fun e => (e.1, f e.2), map.increasing.mapValues fun _ => f⟩

theorem mapValues_insert {β : Type} (f : α → β) (map : NameMap α) (name : String) (value : α) :
    (map.insert name value).mapValues f = (map.mapValues f).insert name (f value) := by
  have entries : ∀ entries : List (String × α), (insertByName name value entries).map (fun e => (e.1, f e.2)) =
      insertByName name (f value) (entries.map fun e => (e.1, f e.2)) := by
    intro entries
    induction entries with
    | nil => rfl
    | cons e rest ih =>
      obtain ⟨n, v⟩ := e
      simp only [insertByName, List.map_cons]
      split
      · rfl
      · split
        · rw [List.map_cons, ih]
        · rfl
  exact ext (entries map.entries)

theorem mapValues_foldl_insert {β : Type} (f : α → β) (entries : List (String × α)) (map : NameMap α) :
    (entries.foldl (fun map e => map.insert e.1 e.2) map).mapValues f =
      (entries.map fun e => (e.1, f e.2)).foldl (fun map e => map.insert e.1 e.2) (map.mapValues f) := by
  induction entries generalizing map with
  | nil => rfl
  | cons e rest ih => rw [List.foldl_cons, ih, mapValues_insert, List.map_cons, List.foldl_cons]

end NameMap

end EntitlementClient
