/-
Two runs that differ in their secrets alone: in the password and the private key of the credentials, and
in the passwords of users that are created. If the replies are the same, the calls have the same results
and the same lines are written to the log.
-/
import EntitlementClient.Proofs.Config.Secrets
import EntitlementClient.Proofs.Model.Secrets
import EntitlementClient.Proofs.Session.Log
import EntitlementClient.Proofs.Session.Presenting

namespace EntitlementClient

open EntitlementClient.Text
open EntitlementClient.Http
open EntitlementClient.Config
open Traced (Agree)

/-! ## Clients -/

namespace Http.Client

/-- Clients that differ in the password and in what they present alone. -/
structure Alike (client client' : Client) : Prop where
  baseUrl : client.baseUrl = client'.baseUrl
  username : client.basicAuth.map (·.1) = client'.basicAuth.map (·.1)
  defaultHeaders : client.defaultHeaders = client'.defaultHeaders

/-- What setting up a client writes to the log. -/
theorem ofConfig_logLines (config : Config) : (ofConfig config).logLines =
    (if config.acceptInvalidCertificates then [.serverUnverified config.baseUrl.text] else []) ++
      Traced.ifOk (fun _ => [.clientReady config.baseUrl.text config.credentials.mode])
        (presentation? config.credentials) := by
  unfold ofConfig
  cases config.acceptInvalidCertificates <;> rcases presentation? config.credentials with _ | _ <;> rfl

section

variable {config config' : Config}

theorem ofConfig_agree (h : config.Alike config') : Agree Alike (ofConfig config).result (ofConfig config').result := by
  rw [ofConfig_result, ofConfig_result]
  exact Agree.bind h.presented fun _ _ _ =>
    .ok ⟨h.baseUrl, h.credentials.username_eq, by rw [h.userAgentPrefix]⟩

theorem ofConfig_logLines_eq (h : config.Alike config') : (ofConfig config).logLines = (ofConfig config').logLines := by
  rw [ofConfig_logLines, ofConfig_logLines, h.baseUrl, h.acceptInvalidCertificates, h.credentials.mode_eq]
  exact congrArg _ (Agree.ifOk_eq h.presented fun _ _ _ => rfl)

end

/-! ## Messages -/

/-- A token can always be sent. -/
theorem isHeaderValue_basicToken (username password : String) :
    isHeaderValue (basicToken username password) = true := by
  have control : ∀ n < 0x20, Base64.isSign (Char.ofNat n) = false := by decide
  have delete : Base64.isSign (Char.ofNat 0x7F) = false := by decide
  unfold isHeaderValue
  rw [toList_basicToken, List.all_append, Bool.and_eq_true]
  refine ⟨by decide, List.all_eq_true.2 fun c hc => ?_⟩
  have sign := Base64.isSign_encode _ c hc
  rw [← Char.ofNat_toNat c] at sign
  have printable : 0x20 ≤ c.toNat := by
    by_contra small
    rw [control _ (by omega)] at sign
    cases sign
  have visible : c.toNat ≠ 0x7F := by
    intro eq
    rw [eq, delete] at sign
    cases sign
  simp [printable, visible]

theorem authorization_sendable (client : Client) :
    client.authorization.all (fun h => isHeaderName h.1 && isHeaderValue h.2) = true := by
  unfold authorization
  rcases client.basicAuth with _ | ⟨username, password⟩
  · rfl
  · have name : isHeaderName authorizationHeader = true := by decide
    simp [name, isHeaderValue_basicToken]

/-- Whether a message can be sent does not depend on the token, nor on the body. -/
theorem isSendable_message_eq {client client' : Client} (h : client.Alike client') (request : Request)
    (body : Option Json) :
    (client.message { request with body }).isSendable = (client'.message request).isSendable := by
  have url : client.urlFor request.path = client'.urlFor request.path := by rw [urlFor, urlFor, h.baseUrl]
  have own : client.headers { request with body } = client'.headers request := by
    rw [Client.headers, Client.headers, h.defaultHeaders]
  simp only [Message.isSendable, message, url, own, List.all_append, authorization_sendable]

/-- Transports that make the same of two messages that differ in secrets alone have the same reply for them. -/
theorem reply?_eq {client client' : Client} (h : client.Alike client') {request request' : Request}
    {body : Option Json} (hr : request = { request' with body }) {transport transport' : Transport}
    (same : transport (client.message request) = transport' (client'.message request')) :
    client.reply? transport request = client'.reply? transport' request' := by
  subst hr
  rw [reply?, reply?, isSendable_message_eq h, same]

end Http.Client

/-! ## Calls -/

/-- Operations that differ in the password of a user that is created alone. -/
inductive Operation.Alike : {α : Type} → Operation α → Operation α → Prop
  | createUser (owner login password password' : String) :
    Alike (.createUser owner login password) (.createUser owner login password')
  | same {α : Type} (operation : Operation α) : Alike operation operation

/-- Their requests differ in the body alone. -/
theorem Operation.Alike.request_eq {α : Type} {operation operation' : Operation α} (h : operation.Alike operation') :
    operation.request = { operation'.request with body := operation.request.body } := by
  cases h <;> rfl

theorem Operation.Alike.answer_eq {α : Type} {operation operation' : Operation α} (h : operation.Alike operation') :
    operation.answer = operation'.answer := by
  cases h <;> rfl

theorem Operation.Alike.report_eq {α : Type} {operation operation' : Operation α} (h : operation.Alike operation') :
    Session.report operation = Session.report operation' := by
  cases h <;> rfl

/-- Calls that differ in that alone. -/
inductive Call.Alike : {α : Type} → Call α → Call α → Prop
  | operation {α : Type} {operation operation' : Operation α} (h : operation.Alike operation') :
    Alike (.operation operation) (.operation operation')
  | same {α : Type} (call : Call α) : Alike call call

/-- Sessions that differ in the secrets of their credentials alone. -/
structure Session.Alike (session session' : Session) : Prop where
  client : session.client.Alike session'.client
  credentials : session.credentials.Alike session'.credentials
  consumer : session.consumer = session'.consumer

/-- What a transport makes of the message of a call, if the call comes to an operation. -/
def Session.outcome? {α : Type} (session : Session) (transport : Transport) (call : Call α) : Option Outcome :=
  (call.operation? session.currentUuid).map fun operation => transport (session.client.message operation.request)

namespace Session

variable {α : Type} {session session' : Session} {transport transport' : Transport}

theorem Alike.currentUuid_eq (h : session.Alike session') : session.currentUuid = session'.currentUuid := by
  rw [currentUuid, currentUuid, uuid?, uuid?, h.credentials.uuid?_eq, h.consumer]

/-- Two traces with the same result and the same lines in the log. -/
def SameTrace (trace trace' : Traced α) : Prop :=
  trace.result = trace'.result ∧ trace.logLines = trace'.logLines

/-- Operations that are alike do the same, but for what they send. -/
theorem perform_same (h : session.Alike session') {operation operation' : Operation α}
    (alike : operation.Alike operation')
    (same : transport (session.client.message operation.request) =
      transport' (session'.client.message operation'.request)) :
    SameTrace (session.perform transport operation) (session'.perform transport' operation') := by
  have method : operation.request.method = operation'.request.method := by rw [alike.request_eq]
  have path : operation.request.path = operation'.request.path := by rw [alike.request_eq]
  have replies :
      session.client.reply? transport operation.request = session'.client.reply? transport' operation'.request :=
    Client.reply?_eq h.client alike.request_eq same
  have judged : operation.judge = operation'.judge := by
    funext reply
    rw [Operation.judge, Operation.judge, alike.answer_eq, path]
  have lines : Client.replyLines operation.request = Client.replyLines operation'.request := by
    funext reply
    rw [Client.replyLines, Client.replyLines, method, path]
  constructor
  · rw [perform_result, perform_result, replies, judged]
  · rw [perform_logLines, perform_logLines, replies, judged, alike.report_eq, method, path, lines]

theorem performAs_same (h : session.Alike session') (uuid : String) (operation : ConsumerOperation α)
    (same : transport (session.client.message (operation.of uuid).request) =
      transport' (session'.client.message (operation.of uuid).request)) :
    SameTrace (session.performAs transport uuid operation) (session'.performAs transport' uuid operation) := by
  obtain ⟨result, lines⟩ := perform_same h (.same (operation.of uuid)) same
  constructor
  · rw [(performAs_eq uuid operation).1, (performAs_eq uuid operation).1, result]
  · rw [performAs_logLines, performAs_logLines, lines]

/-- So do calls, if the transports make the same of what is sent. -/
theorem make_same (h : session.Alike session') {call call' : Call α} (alike : call.Alike call')
    (same : session.outcome? transport call = session'.outcome? transport' call') :
    SameTrace (session.make transport call) (session'.make transport' call') := by
  have own := h.currentUuid_eq
  cases alike with
  | operation alike => exact perform_same h alike (Option.some.inj same)
  | same =>
    rcases call with operation | ⟨uuid, operation⟩ | operation | ⟨pool, today⟩
    · exact perform_same h (.same operation) (Option.some.inj same)
    · exact performAs_same h uuid operation (Option.some.inj same)
    · -- both sessions know the same consumer, so that the call comes to the same operation
      rw [outcome?, outcome?, ← own] at same
      rw [make_current, make_current, ← own]
      rcases hu : session.currentUuid with e | uuid
      · exact ⟨rfl, rfl⟩
      · rw [hu] at same
        exact performAs_same h uuid operation (Option.some.inj same)
    · rw [outcome?, outcome?, Call.operation?, Call.operation?] at same
      simp only [make]
      rcases hr : pool.request? today with _ | request
      · exact ⟨rfl, rfl⟩
      · rw [hr] at same
        exact perform_same h (.same (.createPool request)) (Option.some.inj same)

/-- Sessions that are alike are alike after calls with the same result. -/
theorem learn_alike (h : session.Alike session') {call call' : Call α} (alike : call.Alike call')
    (result : Except ClientError α) : (session.learn call result).Alike (session'.learn call' result) := by
  rcases result with e | a
  · exact h
  · have registered : registered? call a = registered? call' a := by
      cases alike with
      | operation alike => cases alike <;> rfl
      | same => rfl
    rw [learn, learn, registered]
    rcases registered? call' a with _ | consumer
    · exact h
    · exact { h with consumer := rfl }

/-! ## Histories -/

/-- Two histories of calls that are alike, each with the same outcome in both. -/
inductive Matched : Session → Session → List Turn → List Turn → Prop
  | nil (session session' : Session) : Matched session session' [] []
  | cons {session session' : Session} {α : Type} {call call' : Call α} {transport transport' : Transport}
    {turns turns' : List Turn} (alike : call.Alike call')
    (same : session.outcome? transport call = session'.outcome? transport' call')
    (rest : Matched (session.step transport call).2 (session'.step transport' call').2 turns turns') :
    Matched session session' (⟨call, transport⟩ :: turns) (⟨call', transport'⟩ :: turns')

/-- They write the same to the log. -/
theorem Matched.historyLines_eq {turns turns' : List Turn} (h : session.Alike session')
    (matched : Matched session session' turns turns') : session.historyLines turns = session'.historyLines turns' := by
  induction matched with
  | nil => rfl
  | cons alike same _ ih =>
    obtain ⟨result, lines⟩ := make_same h alike same
    rw [historyLines, historyLines, lines, ih]
    rw [step_session, step_session, result]
    exact learn_alike h alike _

/-! ## Opening -/

section

variable {config config' : Config}

theorem ofConfig_agree (h : config.Alike config') : Agree Alike (ofConfig config).result (ofConfig config').result := by
  unfold ofConfig
  rw [Traced.result_bind, Traced.result_bind]
  exact (Client.ofConfig_agree h).bind fun client client' alike => .ok ⟨alike, h.credentials, rfl⟩

theorem ofConfig_logLines_eq (h : config.Alike config') : (ofConfig config).logLines = (ofConfig config').logLines := by
  unfold ofConfig
  rw [Traced.logLines_bind, Traced.logLines_bind, Client.ofConfig_logLines_eq h]
  exact congrArg _ ((Client.ofConfig_agree h).ifOk_eq fun _ _ _ => rfl)

end

section

variable {settings settings' : List Setting}

theorem ofDraft_agree (h : List.Forall₂ Setting.Alike settings settings') (keys : KeysUsable settings settings') :
    Agree Alike (ofDraft (.ofSettings settings)).result (ofDraft (.ofSettings settings')).result := by
  unfold ofDraft
  rw [Traced.result_bind, Traced.result_bind]
  exact (Draft.build_agree h keys).bind fun config config' alike => ofConfig_agree alike

theorem ofDraft_logLines_eq (h : List.Forall₂ Setting.Alike settings settings') (keys : KeysUsable settings settings') :
    (ofDraft (.ofSettings settings)).logLines = (ofDraft (.ofSettings settings')).logLines := by
  unfold ofDraft
  rw [Traced.logLines_bind, Traced.logLines_bind, Draft.build_logLines_eq h keys]
  exact congrArg _ ((Draft.build_agree h keys).ifOk_eq fun config config' alike => ofConfig_logLines_eq alike)

end

/-! ## Whole runs -/

/-- What does not tell two runs apart that start with two series of choices. -/
structure SameDiagnostics (settings settings' : List Setting) : Prop where
  /-- Both configurations are made, or neither for the same reason, and they are shown alike. -/
  config : (Draft.ofSettings settings).build.result.map Config.inspect =
    (Draft.ofSettings settings').build.result.map Config.inspect
  credentials : (Draft.ofSettings settings).build.result.map (·.credentials.inspect) =
    (Draft.ofSettings settings').build.result.map (·.credentials.inspect)
  /-- Both sessions are opened, or neither for the same reason. -/
  opening : (ofDraft (.ofSettings settings)).result.map (fun _ => ()) =
    (ofDraft (.ofSettings settings')).result.map fun _ => ()
  openingLines : (ofDraft (.ofSettings settings)).logLines = (ofDraft (.ofSettings settings')).logLines
  historyLines : ∀ session session', (ofDraft (.ofSettings settings)).result = .ok session →
    (ofDraft (.ofSettings settings')).result = .ok session' → ∀ turns turns', Matched session session' turns turns' →
      session.historyLines turns = session'.historyLines turns'

/-- Passwords and private keys that can be used do not tell two runs apart, nor do the texts of two
values of a model that differ in them. -/
theorem secrets_unseen {settings settings' : List Setting} (h : List.Forall₂ Setting.Alike settings settings')
    (keys : KeysUsable settings settings') : SameDiagnostics settings settings' ∧
      ∀ (keeper : Keeper) (a b : keeper.Value), keeper.Alike a b → keeper.inspect a = keeper.inspect b := by
  have built := Draft.build_agree h keys
  have opened := ofDraft_agree h keys
  refine ⟨?_, fun keeper _ _ alike => keeper.inspect_eq alike⟩
  exact
    { config := built.map_eq fun _ _ alike => alike.inspect_eq
      credentials := built.map_eq fun _ _ alike => alike.credentials.inspect_eq
      opening := opened.map_eq fun _ _ _ => rfl
      openingLines := ofDraft_logLines_eq h keys
      historyLines := by
        intro session session' hs hs' turns turns' matched
        rw [hs, hs'] at opened
        cases opened with
        | ok alike => exact matched.historyLines_eq alike }

/-- An Ed25519 key. -/
def sampleSeedKey : List UInt8 :=
  [0x30, 0x2E, 0x02, 0x01, 0x00, 0x30, 0x05, 0x06, 0x03, 0x2B, 0x65, 0x70, 0x04, 0x22, 0x04, 0x20] ++
    List.replicate 32 0x11

theorem SampleRead.usable {text : List Char} {key : List UInt8} {presentation : Presentation}
    (h : SampleRead text key presentation) : Usable (String.ofList text) (String.ofList (keyText key)) := by
  obtain ⟨subject, read⟩ := h.identity
  refine ⟨h.accepted, fun identity hi => ?_⟩
  rw [← Except.ok.inj (read.symm.trans hi)]
  exact ⟨presentation, h.presentation_eq subject⟩

/-- Users that may be absent. -/
def sampleUsers (password : String) : (Keeper.option (.list .newUser)).Value :=
  (some [⟨"admin", password⟩, ⟨"guest", ""⟩] : Option (List NewUser))

theorem secrets_unseen_keys :
    SameDiagnostics (sampleIdentity (labelledText "CERTIFICATE") sampleKey)
        (sampleIdentity (labelledText "CERTIFICATE") sampleSeedKey) ∧
      (Keeper.option (.list .newUser)).inspect (sampleUsers "one") =
        (Keeper.option (.list .newUser)).inspect (sampleUsers "two") := by
  have read : SampleRead (labelledText "CERTIFICATE") sampleSeedKey
      ⟨[sampleCertificate 0x31, sampleCertificate 0x32], sampleSeedKey⟩ :=
    { sampleRead_certificate with
      key_first := by decide +kernel
      presented := by decide +kernel
      loads := by decide +kernel }
  have alike : List.Forall₂ Setting.Alike (sampleIdentity (labelledText "CERTIFICATE") sampleKey)
      (sampleIdentity (labelledText "CERTIFICATE") sampleSeedKey) :=
    .cons (.identityCertificate _ _ _) (.cons (.same _) (.cons (.same _) .nil))
  have keys : KeysUsable (sampleIdentity (labelledText "CERTIFICATE") sampleKey)
      (sampleIdentity (labelledText "CERTIFICATE") sampleSeedKey) := by
    rintro choice choice' hc hc' text key key' rfl rfl -
    obtain ⟨rfl, rfl⟩ := Setting.identityCertificate.inj (Option.some.inj hc)
    obtain ⟨-, rfl⟩ := Setting.identityCertificate.inj (Option.some.inj hc')
    exact ⟨sampleRead_certificate.usable, read.usable⟩
  obtain ⟨runs, texts⟩ := secrets_unseen alike keys
  exact ⟨runs, texts _ _ _ (.some (.cons ⟨rfl⟩ (.cons ⟨rfl⟩ .nil)))⟩

end Session

end EntitlementClient
