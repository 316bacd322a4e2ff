/-
Sessions of an identity certificate: whose uuid a session goes by, and which certificate its server
gets to see. Both come from the first block of the certificate's text if that block is labelled as a
certificate; the uuid is read without a look at the label.
-/
import EntitlementClient.Proofs.Identity.Presentation
import EntitlementClient.Proofs.Session.Opening

namespace EntitlementClient

open EntitlementClient.Text
open EntitlementClient.Http
open EntitlementClient.Config

namespace Session

variable {session : Session}

/-- What is known of a session with an identity certificate: the first block of its certificate's text,
the label and the other blocks that are found when the connection is set up, and what is presented. -/
structure Presents (certificate key : String) (session : Session) (identity : IdentityCertificate) (block : Pem.Block)
    (label : String) (others : List Pem.Block) (presentation : Presentation) : Prop where
  texts : session.credentials = .certificate identity ∧ identity.certificatePem = certificate ∧ identity.keyPem = key
  /-- The uuid is the user id of the certificate in the first block. -/
  owner : Pem.first certificate.toList = .ok block ∧
    ∃ subject, Certificate.subject? block.content = some subject ∧ subject.userId? = some identity.uuid ∧
      session.uuid? = some identity.uuid
  /-- The same bytes are in the first block of the text with the key. -/
  blocks : Pem.blocks? identity.pem = some (⟨label, block.content⟩ :: others)
  presented : session.client.presentation = some presentation
  /-- The leaf is the first block that is labelled as a certificate. -/
  leaf : ∃ found, (⟨label, block.content⟩ :: others).find? Presentation.isCertificate = some found ∧
    presentation.chain.head? = some found.content
  /-- It is the block that the uuid is from if and only if that is labelled so. -/
  own : (⟨label, block.content⟩ :: others).findIdx? Presentation.isCertificate = some 0 ↔
    label = Presentation.certificateLabel
  same : label = Presentation.certificateLabel → block.label = Presentation.certificateLabel ∧
    presentation.chain.head? = some block.content
  other : label ≠ Presentation.certificateLabel →
    presentation.chain = (others.filter Presentation.isCertificate).map (·.content)

/-- A session that is opened with an identity certificate presents the blocks of its text that are labelled as
certificates. -/
theorem opened_presents {settings : List Setting} {certificate key : String}
    (chosen : last? .identityCertificate settings = some (.identityCertificate certificate key))
    (plain : Pem.returnsLastUntilBlock (lines certificate.toList) = true)
    (h : (ofDraft (.ofSettings settings)).result = .ok session) :
    ∃ identity block label others presentation,
      Presents certificate key session identity block label others presentation := by
  obtain ⟨config, hb, ho⟩ := ofDraft_ok h
  obtain ⟨⟨choice, hc, hk⟩, -, -⟩ := Draft.build_ok hb
  obtain ⟨hclient, hcredentials, -⟩ := ofConfig_ok ho
  rcases hc.credentials_ok hk with ⟨name, password, -, hi, -⟩ | ⟨certificate', key', identity, -, hi, read, eq⟩
  · -- a username alone has been chosen
    rw [hi] at chosen; cases chosen
  rw [hi] at chosen
  cases chosen
  obtain ⟨subject, hs, huid, -, rfl, rfl, -⟩ := IdentityCertificate.read_ok read
  obtain ⟨block, hfirst, hsubject⟩ := IdentityCertificate.readSubject_ok.1 hs
  have hp := Client.ofConfig_presentation hclient
  rw [eq] at hp
  obtain ⟨presentation, hof, hp⟩ := exists_of_map_eq_ok hp
  obtain ⟨blocks, hblocks, hchain, hsome⟩ := Presentation.ofIdentity_ok hof
  obtain ⟨label, others, rfl, hlabel⟩ := IdentityCertificate.blocks?_pem plain hfirst hblocks
  have hcredentials' : session.credentials = .certificate identity := hcredentials.trans eq
  -- the leaf is found by a search among all blocks, of which the one that has been read is the first
  have head : presentation.chain.head? =
      ((⟨label, block.content⟩ :: others : List Pem.Block).find? Presentation.isCertificate).map (·.content) := by
    rw [hchain, List.head?_map, List.head?_filter]
  have labelled : Presentation.isCertificate ⟨label, block.content⟩ = true ↔ label = Presentation.certificateLabel := by
    rw [Presentation.isCertificate, beq_iff_eq]
  refine ⟨identity, block, label, others, presentation, ?_⟩
  exact
    { texts := ⟨hcredentials', rfl, rfl⟩
      owner := by
        refine ⟨hfirst, subject, hsubject, huid, ?_⟩
        rw [uuid?, hcredentials']
        rfl
      blocks := hblocks
      presented := hp.symm
      leaf := by
        rcases hf : (⟨label, block.content⟩ :: others : List Pem.Block).find? Presentation.isCertificate with _ | found
        · rw [hf, Option.map_none, List.head?_eq_none_iff] at head
          exact absurd head hsome
        · rw [hf] at head
          exact ⟨found, rfl, head⟩
      own := by
        rw [← labelled, List.findIdx?_cons]
        rcases Presentation.isCertificate ⟨label, block.content⟩ with _ | _ <;> simp
      same := by
        intro eq
        constructor
        · rw [← eq]
          exact hlabel (by rw [eq]; decide)
        · rw [head, List.find?_cons_of_pos (labelled.2 eq)]
          rfl
      other := by
        intro ne
        rw [hchain, List.filter_cons_of_neg (fun is => ne (labelled.1 is))] }

/-! ## Certificates of two consumers -/

/-- A certificate whose subject has the user id `abc-` with one more digit. -/
def sampleCertificate (digit : UInt8) : List UInt8 :=
  [0x30, 0x81, 0xAB, 0x30, 0x81, 0x96, 0xA0, 0x03, 0x02, 0x01, 0x02, 0x02, 0x01, 0x01, 0x30, 0x0A, 0x06, 0x08,
    0x2A, 0x86, 0x48, 0xCE, 0x3D, 0x04, 0x03, 0x02, 0x30, 0x0D, 0x31, 0x0B, 0x30, 0x09, 0x06, 0x03, 0x55,
    0x04, 0x03, 0x0C, 0x02, 0x63, 0x61, 0x30, 0x1E, 0x17, 0x0D, 0x32, 0x34, 0x30, 0x31, 0x30, 0x31, 0x30,
    0x30, 0x30, 0x30, 0x30, 0x30, 0x5A, 0x17, 0x0D, 0x33, 0x34, 0x30, 0x31, 0x30, 0x31, 0x30, 0x30, 0x30,
    0x30, 0x30, 0x30, 0x5A, 0x30, 0x25, 0x31, 0x0C, 0x30, 0x0A, 0x06, 0x03, 0x55, 0x04, 0x03, 0x0C, 0x03,
    0x62, 0x6F, 0x78, 0x31, 0x15, 0x30, 0x13, 0x06, 0x0A, 0x09, 0x92, 0x26, 0x89, 0x93, 0xF2, 0x2C, 0x64,
    0x01, 0x01, 0x0C, 0x05, 0x61, 0x62, 0x63, 0x2D, digit, 0x30, 0x2A, 0x30, 0x05, 0x06, 0x03, 0x2B, 0x65,
    0x70, 0x03, 0x21, 0x00, 0x11, 0x11, 0x11, 0x11, 0x11, 0x11, 0x11, 0x11, 0x11, 0x11, 0x11, 0x11, 0x11,
    0x11, 0x11, 0x11, 0x11, 0x11, 0x11, 0x11, 0x11, 0x11, 0x11, 0x11, 0x11, 0x11, 0x11, 0x11, 0x11, 0x11,
    0x11, 0x11, 0x30, 0x0A, 0x06, 0x08, 0x2A, 0x86, 0x48, 0xCE, 0x3D, 0x04, 0x03, 0x02, 0x03, 0x04, 0x00,
    0x73, 0x69, 0x67]

/-- A key on the curve P-256. -/
def sampleKey : List UInt8 :=
  [0x30, 0x81, 0x87, 0x02, 0x01, 0x00, 0x30, 0x13, 0x06, 0x07, 0x2A, 0x86, 0x48, 0xCE, 0x3D, 0x02, 0x01, 0x06,
    0x08, 0x2A, 0x86, 0x48, 0xCE, 0x3D, 0x03, 0x01, 0x07, 0x04, 0x6D, 0x30, 0x6B, 0x02, 0x01, 0x01, 0x04,
    0x20, 0x88, 0xCC, 0x59, 0x02, 0xBB, 0x69, 0x81, 0xE3, 0xC8, 0xC0, 0xD8, 0x96, 0x75, 0x0B, 0x7E, 0xF2,
    0x57, 0x48, 0x37, 0x05, 0x47, 0xA9, 0xDE, 0xA7, 0xA7, 0x5A, 0xCF, 0x42, 0x34, 0xAC, 0x11, 0x9F, 0xA1,
    0x44, 0x03, 0x42, 0x00, 0x04, 0x03, 0xD1, 0x66, 0x0D, 0x7B, 0xD2, 0x8B, 0x51, 0x96, 0x60, 0x71, 0x57,
    0x96, 0xB4, 0x4B, 0x31, 0x37, 0x14, 0x49, 0xFF, 0xD8, 0xF4, 0x35, 0xCB, 0xF1, 0x4D, 0xCB, 0x74, 0x0C,
    0x48, 0x97, 0x0B, 0x37, 0x18, 0xBF, 0x11, 0x7F, 0x56, 0x95, 0xC0, 0xC0, 0x53, 0x1E, 0xDD, 0x0E, 0xBD,
    0x83, 0xF5, 0xC9, 0xCB, 0x29, 0x72, 0x5D, 0x78, 0xC3, 0x02, 0x7A, 0x6B, 0x10, 0xB5, 0xE7, 0x55, 0xD4, 0xB3]

theorem sampleKey_isLoadable : PrivateKey.isLoadable sampleKey = true := by decide +kernel

/-- The text of a block. -/
def blockText (label : String) (content : List UInt8) : List Char :=
  Pem.beginMark ++ label.toList ++ Pem.fence ++ '\n' :: Base64.encode content ++
    '\n' :: Pem.endMark ++ label.toList ++ Pem.fence ++ ['\n']

/-- The first certificate under some label, and then the second one. -/
def labelledText (label : String) : List Char :=
  blockText label (sampleCertificate 0x31) ++ blockText "CERTIFICATE" (sampleCertificate 0x32)

/-- The second certificate behind a carriage return, and then the first one. -/
def hiddenText : List Char :=
  '#' :: '\r' :: blockText "CERTIFICATE" (sampleCertificate 0x32) ++ blockText "CERTIFICATE" (sampleCertificate 0x31)

/-- The text of a key. -/
def keyText (key : List UInt8) : List Char :=
  blockText "PRIVATE KEY" key

/-- The choice of a text of certificates and a key. -/
def sampleIdentity (text : List Char) (key : List UInt8) : List Setting :=
  [.identityCertificate (String.ofList text) (String.ofList (keyText key)), .host "cp.example.com", .port 443]

/-- The identity of the consumer `abc-1` in them. -/
def sampleOwner (text : List Char) (key : List UInt8) (subject : Name) : IdentityCertificate :=
  ⟨String.ofList text, String.ofList (keyText key), subject.shown, "abc-1", by decide⟩

/-- It is read if the first certificate is the first block and the key is accepted. -/
theorem exists_read_sampleOwner {text : List Char} {key : List UInt8}
    (certificate_first : (Pem.first text).map (·.content) = .ok (sampleCertificate 0x31))
    (accepted : IdentityCertificate.checkKey (String.ofList (keyText key)) = .ok ()) : ∃ subject,
      IdentityCertificate.read (String.ofList text) (String.ofList (keyText key)) =
        .ok (sampleOwner text key subject) := by
  have owner : (Certificate.subject? (sampleCertificate 0x31)).bind (·.userId?) = some "abc-1" := by decide +kernel
  obtain ⟨subject, hs, hu⟩ := Option.bind_eq_some_iff.1 owner
  obtain ⟨block, hfirst, content⟩ := exists_of_map_eq_ok certificate_first
  have read : IdentityCertificate.readSubject (String.ofList text) = .ok subject := by
    rw [IdentityCertificate.readSubject_ok, String.toList_ofList]
    exact ⟨block, hfirst, content ▸ hs⟩
  exact ⟨subject, IdentityCertificate.read_eq read hu (by decide) accepted⟩

/-- What both readers find in them: the first certificate is read, and the blocks can be presented. -/
structure SampleRead (text : List Char) (key : List UInt8) (presentation : Presentation) : Prop where
  certificate_first : (Pem.first text).map (·.content) = .ok (sampleCertificate 0x31)
  key_first : Pem.first (keyText key) = .ok ⟨"PRIVATE KEY", key⟩
  ended : text.getLast? = some '\n'
  presented : (Pem.blocks? (text ++ keyText key)).bind Presentation.ofBlocks? = some presentation
  loads : PrivateKey.isLoadable presentation.key = true

section

variable {text : List Char} {key : List UInt8} {presentation : Presentation}

theorem SampleRead.accepted (h : SampleRead text key presentation) :
    IdentityCertificate.checkKey (String.ofList (keyText key)) = .ok () := by
  have first : Pem.first (String.ofList (keyText key)).toList = .ok ⟨"PRIVATE KEY", key⟩ := by
    rw [String.toList_ofList, h.key_first]
  have labelled : IdentityCertificate.keyLabel.isSuffixOf "PRIVATE KEY".toList = true := by decide
  exact IdentityCertificate.checkKey_of_label first labelled

theorem SampleRead.identity (h : SampleRead text key presentation) : ∃ subject,
    IdentityCertificate.read (String.ofList text) (String.ofList (keyText key)) = .ok (sampleOwner text key subject) :=
  exists_read_sampleOwner h.certificate_first h.accepted

theorem SampleRead.presentation_eq (h : SampleRead text key presentation) (subject : Name) :
    Presentation.ofIdentity (sampleOwner text key subject) = .ok presentation := by
  obtain ⟨blocks, hb, hp⟩ := Option.bind_eq_some_iff.1 h.presented
  have whole : Pem.blocks? (sampleOwner text key subject).pem = some blocks := by
    rw [← hb, IdentityCertificate.pem]
    simp only [sampleOwner, String.toList_ofList, h.ended, if_true, List.append_nil]
  exact Presentation.ofIdentity_eq whole hp h.loads

/-- They open a session for that consumer. -/
theorem SampleRead.opens (h : SampleRead text key presentation) :
    ∃ session, (ofDraft (.ofSettings (sampleIdentity text key))).result = .ok session ∧ session.uuid? = some "abc-1" ∧
      session.client.presentation = some presentation := by
  obtain ⟨subject, read⟩ := h.identity
  have certificate : (Setting.identityCertificate (String.ofList text) (String.ofList (keyText key))).credentials =
      .ok (.certificate (sampleOwner text key subject)) := by
    rw [Setting.credentials, read]
    rfl
  obtain ⟨host, hh⟩ : ∃ host, hostOf (sampleIdentity text key) = .ok host := ⟨_, rfl⟩
  have baseUrl : baseUrlOf (sampleIdentity text key) host = .ok (.ofHost host 443) := rfl
  have presented : Client.presentation? (.certificate (sampleOwner text key subject)) = .ok (some presentation) := by
    rw [Client.presentation?, h.presentation_eq]
    rfl
  obtain ⟨session, h, hc, hpresented⟩ := Session.opens (.inr ⟨rfl, rfl⟩) certificate hh baseUrl presented
  refine ⟨session, h, ?_, hpresented⟩
  rw [uuid?, hc]
  rfl

end

theorem sampleRead_certificate : SampleRead (labelledText "CERTIFICATE") sampleKey
    ⟨[sampleCertificate 0x31, sampleCertificate 0x32], sampleKey⟩ where
  certificate_first := by decide +kernel
  key_first := by decide +kernel
  ended := by decide +kernel
  presented := by decide +kernel
  loads := sampleKey_isLoadable

theorem opened_presents_first : ∃ session identity block label others presentation,
    (ofDraft (.ofSettings (sampleIdentity (labelledText "CERTIFICATE") sampleKey))).result = .ok session ∧
      Presents (String.ofList (labelledText "CERTIFICATE")) (String.ofList (keyText sampleKey)) session identity block
        label others presentation := by
  have plain : Pem.returnsLastUntilBlock (lines (String.ofList (labelledText "CERTIFICATE")).toList) = true := by
    rw [String.toList_ofList]
    decide +kernel
  obtain ⟨session, h, -⟩ := sampleRead_certificate.opens
  obtain ⟨identity, block, label, others, presentation, known⟩ := opened_presents rfl plain h
  exact ⟨session, identity, block, label, others, presentation, h, known⟩

/-- A session that goes by the uuid of the first consumer and presents the certificate of the second. -/
def PresentsAnother (settings : List Setting) : Prop :=
  ∃ session presentation leaf subject, (ofDraft (.ofSettings settings)).result = .ok session ∧
    session.uuid? = some "abc-1" ∧ session.client.presentation = some presentation ∧
      presentation.chain.head? = some leaf ∧ Certificate.subject? leaf = some subject ∧ subject.userId? = some "abc-2"

theorem SampleRead.presentsAnother {text : List Char} {key : List UInt8} {chain : List (List UInt8)}
    (h : SampleRead text key ⟨sampleCertificate 0x32 :: chain, key⟩) : PresentsAnother (sampleIdentity text key) := by
  have leaf : (Certificate.subject? (sampleCertificate 0x32)).bind (·.userId?) = some "abc-2" := by decide +kernel
  obtain ⟨subject, hs, hu⟩ := Option.bind_eq_some_iff.1 leaf
  obtain ⟨session, opened, uuid, presented⟩ := h.opens
  exact ⟨session, _, _, subject, opened, uuid, presented, rfl, hs, hu⟩

/-- Under another label the first certificate is read, but the second one is presented; behind a
carriage return the second one is not read, but presented all the same. -/
theorem opened_presents_another : PresentsAnother (sampleIdentity (labelledText "X509 CERTIFICATE") sampleKey) ∧
    PresentsAnother (sampleIdentity hiddenText sampleKey) := by
  have labelled : SampleRead (labelledText "X509 CERTIFICATE") sampleKey ⟨[sampleCertificate 0x32], sampleKey⟩ :=
    ⟨by decide +kernel, by decide +kernel, by decide +kernel, by decide +kernel, sampleKey_isLoadable⟩
  have hidden : SampleRead hiddenText sampleKey ⟨[sampleCertificate 0x32, sampleCertificate 0x31], sampleKey⟩ :=
    ⟨by decide +kernel, by decide +kernel, by decide +kernel, by decide +kernel, sampleKey_isLoadable⟩
  exact ⟨labelled.presentsAnother, hidden.presentsAnother⟩

end Session

end EntitlementClient
