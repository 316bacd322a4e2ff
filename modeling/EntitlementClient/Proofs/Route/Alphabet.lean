/-
The characters of addresses: unreserved ones, percent signs and the marks between the parts; and the
shape of paths, which start with one slash and a word.
-/
import EntitlementClient.Proofs.Text.Lines
import EntitlementClient.Proofs.Text.Percent
import EntitlementClient.Route.Basic

namespace EntitlementClient

open EntitlementClient.Text

/-! ## Alphabet -/

/-- Whether a character can stand in the written form of an address. -/
def Address.isWritten (c : Char) : Bool :=
  Percent.isPlain c || ['%', '/', '?', '&', '=', ','].contains c

namespace Address

theorem isWritten_encode (s : String) : ∀ c ∈ Percent.encode s, isWritten c = true := by
  intro c hc
  rcases Percent.encode_alphabet s c hc with hp | rfl
  · rw [isWritten, hp, Bool.true_or]
  · decide

theorem isWritten_intercalate {mark : Char} (hm : isWritten mark = true) : ∀ {pieces : List (List Char)},
    (∀ s ∈ pieces, ∀ c ∈ s, isWritten c = true) → ∀ c ∈ List.intercalate [mark] pieces, isWritten c = true :=
  forall_mem_intercalate hm

theorem isWritten_parameter (parameter : Parameter) : ∀ c ∈ parameter.text, isWritten c = true := by
  intro c hc
  rcases List.mem_append.1 hc with hc | hc
  · exact isWritten_encode _ c hc
  rcases List.mem_cons.1 hc with rfl | hc
  · decide
  · refine isWritten_intercalate (by decide) (fun s hs => ?_) c hc
    obtain ⟨value, -, rfl⟩ := List.mem_map.1 hs
    exact isWritten_encode value

theorem isWritten_query (query : Query) : ∀ c ∈ query.text, isWritten c = true := by
  obtain ⟨parameters, separation⟩ := query
  rcases separation with _ | _
  · refine isWritten_intercalate (by decide) fun s hs => ?_
    obtain ⟨parameter, -, rfl⟩ := List.mem_map.1 hs
    exact isWritten_parameter parameter
  · intro c hc
    obtain ⟨parameter, -, hm⟩ := List.mem_flatMap.1 hc
    rcases List.mem_append.1 hm with hm | hm
    · exact isWritten_parameter parameter c hm
    · rw [List.mem_singleton.1 hm]
      decide

/-- Every character of a written address is unreserved, a percent sign or a mark. -/
theorem isWritten_text (address : Address) : ∀ c ∈ address.text, isWritten c = true := by
  intro c hc
  rcases List.mem_append.1 hc with hc | hc
  · obtain ⟨segment, -, hm⟩ := List.mem_flatMap.1 hc
    rcases List.mem_cons.1 hm with rfl | hm
    · decide
    · exact isWritten_encode segment c hm
  · unfold queryText at hc
    split at hc
    · rcases List.mem_cons.1 hc with rfl | hc
      · decide
      · exact isWritten_query _ c hc
    · cases hc

/-- No address holds the mark of a fragment. -/
theorem text_ne_hash (address : Address) : ∀ c ∈ address.text, c ≠ '#' := by
  rintro c hc rfl
  exact absurd (address.isWritten_text '#' hc) (by decide)

end Address

/-! ## Shape -/

namespace Route

/-- The first segment of an address is a word of the route and no argument. -/
theorem exists_first_segment (route : Route) : ∃ word segments,
    route.address.segments = word :: segments ∧ word.toList.all Percent.isPlain = true ∧ word.toList ≠ [] := by
  cases route <;> exact ⟨_, _, rfl, by decide, by decide⟩

/-- A path starts with one slash and then something else. -/
theorem exists_pathText (route : Route) : ∃ c s, route.address.pathText = '/' :: c :: s ∧ c ≠ '/' := by
  obtain ⟨word, segments, hs, hp, hn⟩ := route.exists_first_segment
  obtain ⟨c, cs, hw⟩ := List.exists_cons_of_ne_nil hn
  have hc : Percent.isPlain c = true := by
    rw [hw, List.all_cons, Bool.and_eq_true] at hp
    exact hp.1
  refine ⟨c, cs ++ segments.flatMap fun segment => '/' :: Percent.encode segment, ?_, ?_⟩
  · rw [Address.pathText, hs, List.flatMap_cons, Percent.encode_of_plain hp, hw]
    rfl
  · rintro rfl
    exact absurd hc (by decide)

end Route

end EntitlementClient
