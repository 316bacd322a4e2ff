/-
Identities that have been read: where their parts come from, what can be wrong with the two texts, and
that the text of the key does not matter as long as it is accepted.
-/
import EntitlementClient.Identity.Basic
import EntitlementClient.Proofs.Result

namespace EntitlementClient.IdentityCertificate

open EntitlementClient.Text

theorem readBlock_error {pem : String} {e : ClientError} (h : readBlock pem = .error e) :
    ∃ fault, e = .invalidCertificate fault := by
  unfold readBlock at h
  rcases hf : Pem.first pem.toList with fault | block
  · rw [hf] at h; cases h; exact ⟨_, rfl⟩
  · rw [hf] at h; cases h

theorem readBlock_ok {pem : String} {block : Pem.Block} :
    readBlock pem = .ok block ↔ Pem.first pem.toList = .ok block := by
  unfold readBlock
  rcases Pem.first pem.toList with fault | first
  · constructor <;> intro h <;> cases h
  · constructor <;> intro h <;> cases h <;> rfl

/-- A subject is that of the certificate in the first block. -/
theorem readSubject_ok {pem : String} {subject : Name} : readSubject pem = .ok subject ↔
    ∃ block, Pem.first pem.toList = .ok block ∧ Certificate.subject? block.content = some subject := by
  unfold readSubject
  constructor
  · intro h
    obtain ⟨block, hb, h⟩ := exists_of_bind_eq_ok h
    split at h
    · next hs =>
      cases h
      exact ⟨block, readBlock_ok.1 hb, hs⟩
    · cases h
  · rintro ⟨block, hf, hs⟩
    simp only [readBlock_ok.2 hf, bind, Except.bind, hs]

theorem readSubject_error {pem : String} {e : ClientError} (h : readSubject pem = .error e) :
    ∃ fault, e = .invalidCertificate fault := by
  unfold readSubject at h
  rcases error_of_bind h with hb | ⟨block, -, h⟩
  · exact readBlock_error hb
  · split at h
    · cases h
    · cases h; exact ⟨_, rfl⟩

theorem checkKey_error {pem : String} {e : ClientError} (h : checkKey pem = .error e) :
    ∃ fault, e = .invalidCertificate fault := by
  unfold checkKey at h
  rcases error_of_bind h with hb | ⟨block, -, h⟩
  · exact readBlock_error hb
  · split at h
    · cases h
    · cases h; exact ⟨_, rfl⟩

theorem checkKey_of_label {pem : String} {block : Pem.Block} (h : Pem.first pem.toList = .ok block)
    (label : keyLabel.isSuffixOf block.label.toList = true) : checkKey pem = .ok () := by
  simp only [checkKey, readBlock_ok.2 h, bind, Except.bind, label, if_true]

/-- An identity is read if the certificate tells a uuid and the key is accepted. -/
theorem read_eq {certificate key uuid : String} {subject : Name} (hs : readSubject certificate = .ok subject)
    (hu : subject.userId? = some uuid) (ne : uuid ≠ "") (hk : checkKey key = .ok ()) :
    read certificate key = .ok ⟨certificate, key, subject.shown, uuid, ne⟩ := by
  simp only [read, hs, bind, Except.bind, hu, hk]
  rw [dif_neg ne]
  rfl

/-- What is known of an identity that has been read. -/
theorem read_ok {certificate key : String} {identity : IdentityCertificate} (h : read certificate key = .ok identity) :
    ∃ subject, readSubject certificate = .ok subject ∧ subject.userId? = some identity.uuid ∧ checkKey key = .ok () ∧
      identity.certificatePem = certificate ∧ identity.keyPem = key ∧ identity.subject = subject.shown := by
  unfold read at h
  obtain ⟨subject, hs, h⟩ := exists_of_bind_eq_ok h
  split at h
  · cases h
  next uuid hu =>
    split at h
    · cases h
    · obtain ⟨⟨⟩, hk, h⟩ := exists_of_bind_eq_ok h
      cases h
      exact ⟨subject, hs, hu, hk, rfl, rfl, rfl⟩

theorem read_error {certificate key : String} {e : ClientError} (h : read certificate key = .error e) :
    (∃ fault, e = .invalidCertificate fault) ∨ ∃ subject, e = .missingUid subject := by
  unfold read at h
  rcases error_of_bind h with hs | ⟨subject, -, h⟩
  · exact .inl (readSubject_error hs)
  split at h
  · cases h; exact .inr ⟨_, rfl⟩
  · split at h
    · cases h; exact .inr ⟨_, rfl⟩
    · rcases error_of_bind h with hk | ⟨-, -, h⟩
      · exact .inl (checkKey_error hk)
      · cases h

/-- Of two keys that are accepted it does not matter which one it is. -/
theorem read_of_checkKey {key key' : String} (h : checkKey key = .ok ()) (h' : checkKey key' = .ok ())
    (certificate : String) : read certificate key' =
      (read certificate key).map fun identity => { identity with keyPem := key' } := by
  unfold read
  rcases readSubject certificate with e | subject
  · rfl
  rcases hu : subject.userId? with _ | uuid
  · simp [bind, Except.bind, hu, Except.map]
  · simp only [bind, Except.bind, hu, h, h']
    split <;> rfl

end EntitlementClient.IdentityCertificate
