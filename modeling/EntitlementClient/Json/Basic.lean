/-
JSON values, and maps from names to values that keep their names in increasing order.
-/
import EntitlementClient.Decimal.Binary64

namespace EntitlementClient

open EntitlementClient.Decimal

/-! ## Maps -/

/-- Puts a value under a name in a list with increasing names; a value that stands there already is
replaced. -/
def insertByName {α : Type} (name : String) (value : α) : List (String × α) → List (String × α)
  | [] => [(name, value)]
  | (n, v) :: rest =>
    if name < n then (name, value) :: (n, v) :: rest
    else if n < name then (n, v) :: insertByName name value rest
    else (name, value) :: rest

/-- Whether the names of a list increase. -/
def IncreasingNames {α : Type} (entries : List (String × α)) : Prop :=
  entries.Pairwise fun a b => a.1 < b.1

theorem mem_insertByName {α : Type} {name : String} {value : α} {entries : List (String × α)}
    {e : String × α} (h : e ∈ insertByName name value entries) :
    e.1 = name ∨ e ∈ entries := by
  induction entries with
  | nil => simp only [insertByName, List.mem_singleton] at h; exact .inl (by rw [h])
  | cons head rest ih =>
    obtain ⟨n, v⟩ := head
    simp only [insertByName] at h
    split at h
    · rcases List.mem_cons.mp h with rfl | h
      · exact .inl rfl
      · exact .inr h
    · split at h
      · rcases List.mem_cons.mp h with rfl | h
        · exact .inr List.mem_cons_self
        · exact (ih h).imp id (List.mem_cons_of_mem _)
      · rcases List.mem_cons.mp h with rfl | h
        · exact .inl rfl
        · exact .inr (List.mem_cons_of_mem _ h)

/-- Putting a value in keeps the names increasing. -/
theorem IncreasingNames.insertByName {α : Type} {name : String} {value : α}
    {entries : List (String × α)} (h : IncreasingNames entries) :
    IncreasingNames (insertByName name value entries) := by
  induction entries with
  | nil => exact List.pairwise_singleton _ _
  | cons head rest ih =>
    obtain ⟨n, v⟩ := head
    obtain ⟨first, tail⟩ := List.pairwise_cons.mp h
    simp only [EntitlementClient.insertByName]
    split
    · next lt =>
      refine List.pairwise_cons.mpr ⟨fun e he => ?_, h⟩
      rcases List.mem_cons.mp he with rfl | he
      · exact lt
      · exact String.lt_trans lt (first e he)
    · next ge =>
      split
      · next lt =>
        refine List.pairwise_cons.mpr ⟨fun e he => ?_, ih tail⟩
        rcases mem_insertByName he with eq | he
        · simpa only [eq] using lt
        · exact first e he
      · next le =>
        have eq : name = n := String.le_antisymm (String.not_lt.mp le) (String.not_lt.mp ge)
        subst eq
        exact List.pairwise_cons.mpr ⟨first, tail⟩

/-- A map from names to values, as its entries in increasing order of the names. -/
structure NameMap (α : Type) where
  entries : List (String × α)
  increasing : IncreasingNames entries

namespace NameMap

variable {α : Type}

instance [BEq α] : BEq (NameMap α) where
  beq a b := a.entries == b.entries

@[ext]
theorem ext {a b : NameMap α} (h : a.entries = b.entries) : a = b := by
  cases a; cases b; cases h; rfl

/-- The map without entries. -/
def empty : NameMap α := ⟨[], List.Pairwise.nil⟩

instance : Inhabited (NameMap α) := ⟨empty⟩

/-- The map with a value under a name; the last value put in wins. -/
def insert (map : NameMap α) (name : String) (value : α) : NameMap α :=
  ⟨insertByName name value map.entries, map.increasing.insertByName⟩

/-- The map of a list of entries; of two entries with one name the later wins. -/
def ofList (entries : List (String × α)) : NameMap α :=
  entries.foldl (fun map e => map.insert e.1 e.2) empty

/-- The value under a name. -/
def get? (map : NameMap α) (name : String) : Option α :=
  (map.entries.find? fun e => e.1 == name).map (·.2)

/-- Whether there are no entries. -/
def isEmpty (map : NameMap α) : Bool :=
  map.entries.isEmpty

end NameMap

/-! ## Values -/

/-- A JSON number: an integer of 64 bits with or without a sign, or a finite number of the 64-bit
binary format with its sign. -/
inductive JsonNumber
  | integer (value : Int) (low : -0x8000000000000000 ≤ value)
      (high : value < 0x10000000000000000)
  | double (negative : Bool) (magnitude : Binary64)
deriving DecidableEq

/-- A JSON value. The members of an object stand in the order in which they are written. -/
inductive Json
  | null
  | bool (value : Bool)
  | number (value : JsonNumber)
  | text (value : String)
  | array (items : List Json)
  | object (members : List (String × Json))
deriving BEq, Inhabited

namespace JsonNumber

/-- The number of an unsigned 64-bit integer. -/
def ofUInt64 (n : UInt64) : JsonNumber :=
  .integer n.toNat (by omega) (by have := n.toNat_lt; omega)

/-- The number of a signed 64-bit integer. -/
def ofInt64 (n : Int64) : JsonNumber :=
  .integer n.toInt n.le_toInt (by have := n.toInt_lt; omega)

end JsonNumber

namespace Json

mutual

/-- The value with the members of every object in increasing order of their names; of two members
with one name the later stays. -/
def sorted : Json → Json
  | .array items => .array (sortedItems items)
  | .object members => .object (sortedMembers members .empty).entries
  | json => json
termination_by structural json => json

/-- The items of an array, each with its objects in order. -/
def sortedItems : List Json → List Json
  | [] => []
  | json :: rest => json.sorted :: sortedItems rest
termination_by structural items => items

/-- The members of an object, each in order itself, put one by one into a map. -/
def sortedMembers : List (String × Json) → NameMap Json → NameMap Json
  | [], map => map
  | (name, json) :: rest, map => sortedMembers rest (map.insert name json.sorted)
termination_by structural members => members

end

end Json

end EntitlementClient
