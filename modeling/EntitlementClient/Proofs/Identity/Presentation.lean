/-
What is presented for an identity, beside what has been read of it: the first block of the text of
both is the block of which the uuid has been read, but it is the leaf only if its label says that it
is a certificate.
-/
import EntitlementClient.Identity.Presentation
import EntitlementClient.Proofs.Identity.Basic
import EntitlementClient.Proofs.Identity.Pem

namespace EntitlementClient

open EntitlementClient.Text

namespace IdentityCertificate

/-- The lines of the key follow those of the certificate, but for an empty last one, whatever ends a line beside a
line break. -/
theorem splitWhere_pem {ends : Char → Bool} (newline : ends '\n' = true) (identity : IdentityCertificate) : ∃ ls,
    splitWhere ends identity.pem = ls ++ splitWhere ends identity.keyPem.toList ∧
      (splitWhere ends identity.certificatePem.toList = ls ∨
        splitWhere ends identity.certificatePem.toList = ls ++ [[]]) := by
  simp only [pem]
  split
  · next ended =>
    obtain ⟨s, eq⟩ := List.getLast?_eq_some_iff.1 ended
    refine ⟨splitWhere ends s, ?_, .inr ?_⟩
    · rw [eq, List.append_nil, List.append_assoc]
      exact splitWhere_append_separator newline _ s
    · rw [eq]
      exact splitWhere_append_separator newline [] s
  · refine ⟨splitWhere ends identity.certificatePem.toList, ?_, .inl rfl⟩
    rw [List.append_assoc]
    exact splitWhere_append_separator newline _ _

theorem lines_pem (identity : IdentityCertificate) : ∃ ls,
    lines identity.pem = ls ++ lines identity.keyPem.toList ∧
      (lines identity.certificatePem.toList = ls ∨ lines identity.certificatePem.toList = ls ++ [[]]) :=
  splitWhere_pem rfl identity

/-- The first block of the certificate stands in the text of both at the same place. -/
theorem stands_pem {identity : IdentityCertificate} {before body after : List (List Char)} {header last : List Char}
    {block : Pem.Block}
    (h : Pem.Stands (lines identity.certificatePem.toList) before header body last after block) :
    ∃ rest, Pem.Stands (lines identity.pem) before header body last rest block := by
  obtain ⟨ls, hpem, hlines | hlines⟩ := lines_pem identity
  · refine ⟨after ++ lines identity.keyPem.toList, { h with parts := ?_ }⟩
    rw [hpem, ← hlines, h.parts]
    simp only [List.append_assoc, List.cons_append]
  · -- the certificate ends with a line break, so its last line is empty and not a line of both
    have whole := hlines.symm.trans h.parts
    rcases List.eq_nil_or_concat after with rfl | ⟨others, final, rfl⟩
    · -- the last line would be the empty one
      have split : ls ++ [[]] = (before ++ header :: body) ++ [last] := by
        rw [whole, List.append_assoc, List.cons_append]
      have ends := h.ends
      rw [← List.singleton_inj.1 (List.append_inj' split rfl).2] at ends
      exact absurd ends (by decide)
    · refine ⟨others ++ lines identity.keyPem.toList, { h with parts := ?_ }⟩
      have split : ls ++ [[]] = (before ++ header :: (body ++ last :: others)) ++ [final] := by
        rw [whole, List.append_assoc, List.cons_append, List.append_assoc, List.cons_append, List.concat_eq_append]
      rw [hpem, (List.append_inj' split rfl).1]
      simp only [List.append_assoc, List.cons_append]

/-- If the whole text can be read, its first block is the one that the loose reader finds. -/
theorem blocks?_pem {identity : IdentityCertificate} {block : Pem.Block} {blocks : List Pem.Block}
    (plain : Pem.returnsLastUntilBlock (lines identity.certificatePem.toList) = true)
    (h : Pem.first identity.certificatePem.toList = .ok block) (hb : Pem.blocks? identity.pem = some blocks) :
    ∃ label others, blocks = ⟨label, block.content⟩ :: others ∧ ('-' ∉ label.toList → block.label = label) := by
  obtain ⟨before, header, body, last, after, stands⟩ := Pem.first_ok h
  rw [stands.parts] at plain
  obtain ⟨before_plain, header_plain⟩ := Pem.returnsLast_of_mem plain stands.none_before
  obtain ⟨rest, whole⟩ := stands_pem stands
  rw [Pem.blocks?_eq] at hb
  exact Pem.readBlocks_stands whole before_plain header_plain hb

end IdentityCertificate

namespace Presentation

/-- Whether a block is a certificate, as its label tells. -/
def isCertificate (block : Pem.Block) : Bool :=
  block.label == certificateLabel

theorem ofBlocks?_chain {blocks : List Pem.Block} {presentation : Presentation}
    (h : ofBlocks? blocks = some presentation) :
    presentation.chain = (blocks.filter isCertificate).map (·.content) ∧ presentation.chain ≠ [] := by
  simp only [ofBlocks?] at h
  split at h
  · cases h
  · split at h
    · next hc _ =>
      cases h
      exact ⟨rfl, fun empty => by rw [hc] at empty; cases empty⟩
    · cases h

theorem ofIdentity_ok {identity : IdentityCertificate} {presentation : Presentation}
    (h : ofIdentity identity = .ok presentation) : ∃ blocks, Pem.blocks? identity.pem = some blocks ∧
      presentation.chain = (blocks.filter isCertificate).map (·.content) ∧ presentation.chain ≠ [] := by
  unfold ofIdentity at h
  rcases hb : (Pem.blocks? identity.pem).bind ofBlocks? with _ | found
  · rw [hb] at h; cases h
  rw [hb] at h
  simp only at h
  split at h
  · cases h
    obtain ⟨blocks, read, made⟩ := Option.bind_eq_some_iff.1 hb
    exact ⟨blocks, read, ofBlocks?_chain made⟩
  · cases h

theorem ofIdentity_eq {identity : IdentityCertificate} {blocks : List Pem.Block} {presentation : Presentation}
    (hb : Pem.blocks? identity.pem = some blocks) (hp : ofBlocks? blocks = some presentation)
    (hk : PrivateKey.isLoadable presentation.key = true) : ofIdentity identity = .ok presentation := by
  simp only [ofIdentity, hb, Option.bind_some, hp, hk, if_true]

end Presentation

end EntitlementClient
