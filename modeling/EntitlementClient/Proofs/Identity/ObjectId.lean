/-
The text of an object identifier tells its numbers: it is the numbers with dots between them, and bytes that
have no numbers are shown without dots.
-/
import EntitlementClient.Identity.ObjectId
import EntitlementClient.Proofs.Text.Lines
import Mathlib.Data.List.Basic

namespace EntitlementClient.ObjectId

open EntitlementClient.Text

/-- Numbers with dots between them. -/
def dotted (arcs : List Nat) : String :=
  String.intercalate "." (arcs.map toString)

theorem toList_dotted (arcs : List Nat) :
    (dotted arcs).toList = List.intercalate ['.'] (arcs.map (Nat.toDigits 10)) := by
  have digits : (fun n : Nat => (toString n).toList) = Nat.toDigits 10 := funext fun n => Nat.toList_repr
  rw [dotted, String.toList_intercalate, List.map_map, ← digits]
  rfl

theorem digits_ne_dot (n : Nat) : ∀ c ∈ Nat.toDigits 10 n, (c == '.') = false := by
  intro c hc
  have digit : c.isDigit = true := Nat.isDigit_of_mem_toDigits (by decide) (by decide) hc
  rw [beq_eq_false_iff_ne]
  rintro rfl
  exact absurd digit (by decide)

/-- The numbers are found again between the dots. -/
theorem splitWhere_dotted {arcs : List Nat} (ne : arcs ≠ []) :
    splitWhere (· == '.') (dotted arcs).toList = arcs.map (Nat.toDigits 10) := by
  rw [toList_dotted]
  refine splitWhere_intercalate (p := fun c => c == '.') (beq_self_eq_true '.')
    (mt List.map_eq_nil_iff.1 ne) fun s hs => ?_
  obtain ⟨n, -, rfl⟩ := List.mem_map.1 hs
  exact digits_ne_dot n

theorem toDigits_injective {m n : Nat} (h : Nat.toDigits 10 m = Nat.toDigits 10 n) : m = n := by
  have value := congrArg (Nat.ofDigitChars 10 · 0) h
  simpa only [Nat.ofDigitChars_ten_toDigits] using value

/-- At least one number is told. -/
theorem eq_of_dotted_eq {arcs arcs' : List Nat} (ne : arcs ≠ []) (ne' : arcs' ≠ []) (h : dotted arcs = dotted arcs') :
    arcs = arcs' := by
  have pieces := congrArg (fun text : String => splitWhere (· == '.') text.toList) h
  simp only [splitWhere_dotted ne, splitWhere_dotted ne'] at pieces
  exact List.map_injective_iff.2 (fun _ _ => toDigits_injective) pieces

theorem dot_mem_dotted {arcs : List Nat} (two : 2 ≤ arcs.length) : '.' ∈ (dotted arcs).toList := by
  obtain ⟨m, n, rest, rfl⟩ : ∃ m n rest, arcs = m :: n :: rest := by
    match arcs, two with
    | m :: n :: rest, _ => exact ⟨m, n, rest, rfl⟩
  rw [toList_dotted, List.map_cons, List.map_cons, List.intercalate_cons_cons]
  exact List.mem_append_left _ (List.mem_append_right _ (List.mem_singleton.2 rfl))

theorem dot_not_mem_spaced (bytes : List UInt8) : '.' ∉ (Hex.spaced bytes).toList := by
  have pieces : ∀ s ∈ (bytes.map fun b => [Hex.lower (b.toNat / 16), Hex.lower (b.toNat % 16)]), ∀ c ∈ s, c ≠ '.' := by
    intro s hs c hc
    obtain ⟨b, -, rfl⟩ := List.mem_map.1 hs
    have bound : b.toNat < 256 := b.toNat_lt
    rcases List.mem_cons.1 hc with rfl | hc
    · exact Hex.lower_ne rfl (by omega)
    · rw [List.mem_singleton] at hc
      exact hc ▸ Hex.lower_ne rfl (by omega)
  intro mem
  rw [Hex.spaced, String.toList_intercalate, List.map_map] at mem
  have chars : (String.toList ∘ fun b : UInt8 => String.ofList [Hex.lower (b.toNat / 16), Hex.lower (b.toNat % 16)]) =
      fun b : UInt8 => [Hex.lower (b.toNat / 16), Hex.lower (b.toNat % 16)] := funext fun b => String.toList_ofList
  rw [chars] at mem
  exact forall_mem_intercalate (by decide) pieces '.' mem rfl

/-- Bytes are shown as two numbers or more if and only if they hold these. -/
theorem text_eq_dotted_iff {id : List UInt8} {arcs : List Nat} (two : 2 ≤ arcs.length) :
    text id = dotted arcs ↔ arcs? id = some arcs := by
  have dot := dot_mem_dotted two
  constructor
  · intro h
    unfold text at h
    cases found : arcs? id with
    | none =>
      rw [found] at h
      have h : Hex.spaced id = dotted arcs := h
      rw [← h] at dot
      exact absurd dot (dot_not_mem_spaced id)
    | some others =>
      rw [found] at h
      have h : dotted others = dotted arcs := h
      have ne' : others ≠ [] := by
        rintro rfl
        rw [← h] at dot
        exact nomatch dot
      have ne : arcs ≠ [] := by
        rintro rfl
        exact nomatch two
      rw [eq_of_dotted_eq ne' ne h]
  · intro h
    unfold text
    rw [h]
    rfl

/-- So are those of a user id. -/
theorem text_eq_userId_iff {id : List UInt8} : text id = "0.9.2342.19200300.100.1.1" ↔ arcs? id = some userId :=
  text_eq_dotted_iff (show 2 ≤ userId.length by decide)

end EntitlementClient.ObjectId
