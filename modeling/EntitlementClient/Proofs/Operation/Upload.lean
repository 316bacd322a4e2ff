/-
Certificates that are uploaded: the body is one string of JSON, in one line, from which the server recovers the
certificate byte for byte.
-/
import EntitlementClient.Proofs.Json.Writer
import EntitlementClient.Proofs.Session.Call
import EntitlementClient.Proofs.Text.Base64

namespace EntitlementClient

open EntitlementClient.Http EntitlementClient.Text

/-! ## Strings in base64 -/

/-- What can stand in base64 is written in JSON as it stands. -/
theorem Json.escapeChar_of_isSign {c : Char} (h : Base64.isSign c = true) : escapeChar c = [c] := by
  -- none of the characters that JSON escapes is a digit or the sign of padding
  have printable : ¬c.toNat < 0x20 := by
    have none_below : ∀ n < 0x20, Base64.isSign (Char.ofNat n) = false := by decide
    intro below
    rw [← Char.ofNat_toNat c, none_below c.toNat below] at h
    cases h
  have ne : ∀ d : Char, Base64.isSign d = false → c ≠ d := by
    rintro d none rfl
    rw [none] at h
    cases h
  rw [escapeChar, if_neg (ne '"' (by decide)), if_neg (ne '\\' (by decide)), if_neg (ne '\x08' (by decide)),
    if_neg (ne '\x0c' (by decide)), if_neg (ne '\n' (by decide)), if_neg (ne '\r' (by decide)),
    if_neg (ne '\t' (by decide)), if_neg printable]

/-- The JSON text of a string in base64 is the string between quotes. -/
theorem Json.toList_render_base64 (bytes : List UInt8) :
    (Json.text (String.ofList (Base64.encode bytes))).render.toList = '"' :: Base64.encode bytes ++ ['"'] := by
  have same : (Base64.encode bytes).flatMap escapeChar = Base64.encode bytes :=
    (List.flatMap_congr fun c mem => escapeChar_of_isSign (Base64.isSign_encode bytes c mem)).trans
      (List.flatMap_singleton' _)
  rw [render, String.toList_ofList, write, writeString, String.toList_ofList, same]

/-! ## Uploads -/

/-- What it means that a text carries a certificate. -/
structure CarriesCertificate (certificate : List UInt8) (text : String) : Prop where
  /-- The text stands for a string, and for nothing else, and the string is decoded to the certificate. -/
  string : ∃ s, (∀ value, Json.Denotes text.toList value ↔ value = .text s) ∧
    Base64.decode? s.toList = some certificate ∧ s.toList.length = (certificate.length + 2) / 3 * 4
  /-- There is no white space in it, and so there are no line breaks. -/
  oneLine : ∀ c ∈ text.toList, isBlank c = false

theorem carriesCertificate_render (certificate : List UInt8) :
    CarriesCertificate certificate (Json.text (String.ofList (Base64.encode certificate))).render where
  string := by
    refine ⟨_, Json.denotes_render_iff rfl rfl, ?_, ?_⟩
    · rw [String.toList_ofList, Base64.decode?_encode]
    · rw [String.toList_ofList, Base64.length_encode]
  oneLine := by
    intro c mem
    rw [Json.toList_render_base64, List.cons_append, List.mem_cons, List.mem_append, List.mem_singleton] at mem
    rcases mem with rfl | mem | rfl
    · decide
    · refine Bool.eq_false_iff.2 fun blank => ?_
      have sign := Base64.isSign_encode certificate c mem
      rw [Base64.not_isSign_of_isBlank blank] at sign
      cases sign
    · decide

/-- A text carries one certificate at most. -/
theorem CarriesCertificate.unique {certificate other : List UInt8} {text : String}
    (h : CarriesCertificate certificate text) (h' : CarriesCertificate other text) : certificate = other := by
  obtain ⟨s, denoted, decoded, -⟩ := h.string
  obtain ⟨t, denoted', decoded', -⟩ := h'.string
  cases (denoted (.text t)).1 ((denoted' (.text t)).2 rfl)
  exact Option.some.inj (decoded.symm.trans decoded')

/-- Whatever its bytes, a certificate is sent as a text that carries it, and no other certificate is sent as the same
text. -/
theorem upload_recoverable :
    (∀ certificate : List UInt8, ∃ text,
      (Operation.uploadSatelliteCertificate certificate).request.encodedBody = some text ∧
      CarriesCertificate certificate text ∧
      ∀ (session : Session) (transport : Transport),
        ∀ message ∈ (session.make transport (.operation (.uploadSatelliteCertificate certificate))).messages,
          message.body = some text) ∧
    ∀ certificate other : List UInt8,
      (Operation.uploadSatelliteCertificate certificate).request.encodedBody =
        (Operation.uploadSatelliteCertificate other).request.encodedBody → certificate = other := by
  have body : ∀ certificate : List UInt8, (Operation.uploadSatelliteCertificate certificate).request.encodedBody =
      some (Json.text (String.ofList (Base64.encode certificate))).render := fun _ => rfl
  refine ⟨fun certificate =>
    ⟨_, body certificate, carriesCertificate_render certificate, fun session transport message sent => ?_⟩,
    fun certificate other same => ?_⟩
  · rw [Session.mem_perform_messages sent]
    exact body certificate
  · rw [body, body] at same
    exact (carriesCertificate_render certificate).unique (Option.some.inj same ▸ carriesCertificate_render other)

end EntitlementClient
