/-
Choices made one after another: of those of a kind the last one counts.
-/

namespace EntitlementClient

universe u v

variable {α : Type u} {β : Type v} (kind : β → Option α)

/-- The last of some choices of a kind. -/
def lastOf? (choices : List β) : Option α :=
  (choices.filterMap kind).getLast?

theorem lastOf?_append (earlier later : List β) :
    lastOf? kind (earlier ++ later) = (lastOf? kind later).or (lastOf? kind earlier) := by
  rw [lastOf?, List.filterMap_append, List.getLast?_append, lastOf?, lastOf?]

theorem lastOf?_singleton (choice : β) : lastOf? kind [choice] = kind choice := by
  cases chosen : kind choice <;> simp [lastOf?, chosen]

theorem lastOf?_cons (choice : β) (choices : List β) :
    lastOf? kind (choice :: choices) = (lastOf? kind choices).or (kind choice) := by
  rw [← List.singleton_append, lastOf?_append, lastOf?_singleton]

theorem lastOf?_concat (choices : List β) (choice : β) :
    lastOf? kind (choices ++ [choice]) = (kind choice).or (lastOf? kind choices) := by
  rw [lastOf?_append, lastOf?_singleton]

variable {kind}

theorem lastOf?_eq_none {choices : List β} : lastOf? kind choices = none ↔ ∀ choice ∈ choices, kind choice = none := by
  simp [lastOf?]

theorem exists_of_lastOf?_eq_some {choices : List β} {a : α} (h : lastOf? kind choices = some a) :
    ∃ choice ∈ choices, kind choice = some a :=
  List.mem_filterMap.1 (List.mem_of_getLast? h)

/-- Choices that are none of a kind do not matter for it. -/
theorem filterMap_filter_of_none {p : β → Bool} (h : ∀ choice, p choice = false → kind choice = none)
    (choices : List β) : (choices.filter p).filterMap kind = choices.filterMap kind := by
  rw [List.filterMap_filter]
  refine congrArg (List.filterMap · choices) (funext fun choice => ?_)
  cases left : p choice
  · simp [h choice left]
  · simp

end EntitlementClient
