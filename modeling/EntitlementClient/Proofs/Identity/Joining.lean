/-
The text of an identity: the blocks of its certificate and then the blocks of its key, since the key
starts on a line of its own. No block reaches over from the one to the other if those of the
certificate are closed.
-/
import EntitlementClient.Proofs.Identity.Presentation
import EntitlementClient.Proofs.Identity.Section
import EntitlementClient.Proofs.Identity.Subject

namespace EntitlementClient.IdentityCertificate

open EntitlementClient.Text
open EntitlementClient.Session (exists_read_sampleOwner keyText labelledText sampleCertificate sampleKey sampleOwner)

/-- The blocks of an identity's text are those of its certificate and then those of its key. The
lines end at the characters that satisfy `ends`. -/
structure KeepsBlocks (ends : Char → Bool) (identity : IdentityCertificate) : Prop where
  /-- As they stand in the text, with their labels and lines, whether or not they can be read. -/
  sections : Pem.sections (splitWhere ends identity.pem) =
    Pem.sections (splitWhere ends identity.certificatePem.toList) ++
      Pem.sections (splitWhere ends identity.keyPem.toList)
  /-- As they are read, with their labels and bytes; nothing is read if one of the two cannot be read. -/
  blocks : Pem.readBlocks none [] (splitWhere ends identity.pem) = do
    let certificate ← Pem.readBlocks none [] (splitWhere ends identity.certificatePem.toList)
    let key ← Pem.readBlocks none [] (splitWhere ends identity.keyPem.toList)
    return certificate ++ key

/-- The strict reader's lines end at line breaks and at carriage returns. -/
theorem KeepsBlocks.blocks?_eq {identity : IdentityCertificate} (h : identity.KeepsBlocks Pem.isLineEnd) :
    Pem.blocks? identity.pem = do
      let certificate ← Pem.blocks? identity.certificatePem.toList
      let key ← Pem.blocks? identity.keyPem.toList
      return certificate ++ key :=
  h.blocks

/-- If every block of the certificate is closed, no block is lost where the key follows, nor is one added or changed,
whether or not the certificate ends with a line break. -/
theorem pem_keeps_blocks {ends : Char → Bool} (newline : ends '\n' = true) (identity : IdentityCertificate)
    (closed : Pem.EachClosed (splitWhere ends identity.certificatePem.toList)) : identity.KeepsBlocks ends := by
  obtain ⟨ls, whole, hls | hls⟩ := splitWhere_pem newline identity
  · rw [hls] at closed
    constructor
    · rw [whole, hls, closed.sections_append]
    · rw [whole, hls, closed.readBlocks_append_eq]
  · -- the certificate ends with a line break, so its last line is empty: it holds no block by itself
    rw [hls] at closed
    have shorter := closed.of_append_blank
    have same_sections : Pem.sections (ls ++ [[]]) = Pem.sections ls := by
      rw [shorter.sections_append]
      exact List.append_nil _
    have same_blocks : Pem.readBlocks none [] (ls ++ [[]]) = Pem.readBlocks none [] ls := by
      rw [shorter.readBlocks_append_eq]
      rcases Pem.readBlocks none [] ls with _ | found
      · rfl
      · exact congrArg some (List.append_nil found)
    constructor
    · rw [whole, hls, same_sections, shorter.sections_append]
    · rw [whole, hls, same_blocks, shorter.readBlocks_append_eq]

/-- Two certificates without a line break after the second one. -/
def unendedText : List Char :=
  (labelledText "CERTIFICATE").dropLast

/-- The line break that such a text lacks is not missed: all three blocks of the identity are read. -/
theorem pem_keeps_blocks_unended : unendedText.getLast? = some '-' ∧ ∃ identity,
    read (String.ofList unendedText) (String.ofList (keyText sampleKey)) = .ok identity ∧
      identity.KeepsBlocks Pem.isLineEnd ∧
      Pem.blocks? identity.pem = some [⟨"CERTIFICATE", sampleCertificate 0x31⟩, ⟨"CERTIFICATE", sampleCertificate 0x32⟩,
        ⟨"PRIVATE KEY", sampleKey⟩] := by
  have certificate_first : (Pem.first unendedText).map (·.content) = .ok (sampleCertificate 0x31) := by decide +kernel
  obtain ⟨subject, hread⟩ := exists_read_sampleOwner certificate_first (checkKey_keyText sampleKey)
  have closed :
      Pem.EachClosed (splitWhere Pem.isLineEnd (sampleOwner unendedText sampleKey subject).certificatePem.toList) := by
    rw [sampleOwner, String.toList_ofList]
    decide +kernel
  have certificates : Pem.blocks? unendedText =
      some [⟨"CERTIFICATE", sampleCertificate 0x31⟩, ⟨"CERTIFICATE", sampleCertificate 0x32⟩] := by decide +kernel
  have key : Pem.blocks? (keyText sampleKey) = some [⟨"PRIVATE KEY", sampleKey⟩] := by decide +kernel
  have keeps := pem_keeps_blocks rfl _ closed
  refine ⟨by decide +kernel, _, hread, keeps, ?_⟩
  rw [keeps.blocks?_eq, sampleOwner, String.toList_ofList, String.toList_ofList, certificates, key]
  rfl

end EntitlementClient.IdentityCertificate
