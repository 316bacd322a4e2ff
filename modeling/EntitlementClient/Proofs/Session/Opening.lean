/-
Sessions that have been opened with a series of choices: which of the two ways of making itself known
a session goes by, what it tells about itself, and where its requests go.
-/
import EntitlementClient.Proofs.Config.BaseUrl
import EntitlementClient.Proofs.Config.Settings
import EntitlementClient.Proofs.Http.Authorization
import EntitlementClient.Proofs.Session.History

namespace EntitlementClient

open EntitlementClient.Text
open EntitlementClient.Http
open EntitlementClient.Config

namespace Session

variable {α : Type} {session : Session} {transport : Transport}

/-- A draft opens a session if it makes a configuration, and that a client. -/
theorem ofDraft_ok {draft : Draft} (h : (ofDraft draft).result = .ok session) :
    ∃ config, draft.build.result = .ok config ∧ (ofConfig config).result = .ok session :=
  Traced.bind_ok h

/-- A session is opened if all parts of the configuration are in order and something can be presented. -/
theorem opens {settings : List Setting} {choice : Setting} {credentials : Credentials} {host : Host} {baseUrl : BaseUrl}
    {presentation : Option Presentation} (hc : Authenticates choice settings)
    (hk : choice.credentials = .ok credentials) (hh : hostOf settings = .ok host)
    (hu : baseUrlOf settings host = .ok baseUrl)
    (hp : Client.presentation? credentials = .ok presentation) :
    ∃ session, (ofDraft (.ofSettings settings)).result = .ok session ∧ session.credentials = credentials ∧
      session.client.presentation = presentation := by
  obtain ⟨config, hb, hcredentials, -⟩ :=
    (Draft.ofSettings_determined settings).built choice credentials host baseUrl hc hk hh hu
  rw [← hcredentials] at hp ⊢
  unfold ofDraft ofConfig
  rw [Traced.result_bind, hb]
  simp only [Except.bind, Traced.result_bind, Client.ofConfig_result, hp, Traced.result_pure]
  exact ⟨_, rfl, rfl, rfl⟩

/-- Every message of a call is made of the request of an operation. -/
theorem mem_make_messages {call : Call α} {message : Message} (h : message ∈ (session.make transport call).messages) :
    ∃ operation : Operation α, message = session.client.message operation.request := by
  have sent : ∀ operation : Operation α, message ∈ (session.perform transport operation).messages →
      ∃ operation : Operation α, message = session.client.message operation.request :=
    fun operation hm => ⟨operation, mem_perform_messages hm⟩
  rcases call with op | ⟨uuid, op⟩ | op | ⟨pool, today⟩
  · exact sent op h
  · exact sent _ ((performAs_eq uuid op).2.2 ▸ h)
  · rw [make_current] at h
    rcases ho : session.currentUuid with e | uuid
    · rw [ho] at h; cases h
    · rw [ho] at h
      exact sent _ ((performAs_eq uuid op).2.2 ▸ h)
  · rcases hr : pool.request? today with _ | request
    · simp only [make, hr, Traced.messages_fail] at h
      cases h
    · simp only [make, hr] at h
      exact sent _ h

/-- The token of the last choice of a username and a password. -/
def lastToken? (settings : List Setting) : Option String :=
  ((last? .basicAuth settings).bind Setting.pair?).map fun (username, password) => Client.basicToken username password

/-- What is known of a session that has been opened with a series of choices. -/
structure Opened (settings : List Setting) (session : Session) : Prop where
  /-- One kind of credentials has been chosen, and only one. -/
  oneMode : (∃ choice ∈ settings, choice.setter = .basicAuth) ↔
    ¬∃ choice ∈ settings, choice.setter = .identityCertificate
  certificateMode : session.credentials.mode = "certificate" ↔
    ∃ choice ∈ settings, choice.setter = .identityCertificate
  basicMode : session.credentials.mode = "basic" ↔ ∃ choice ∈ settings, choice.setter = .basicAuth
  uuid : session.uuid?.isSome = true ↔ ∃ choice ∈ settings, choice.setter = .identityCertificate
  identity : session.identityPem? =
    ((last? .identityCertificate settings).bind Setting.pair?).map (·.1)
  /-- The uuid is read from the last certificate. -/
  owner : ∀ certificate key, last? .identityCertificate settings = some (.identityCertificate certificate key) →
    ∃ subject, IdentityCertificate.readSubject certificate = .ok subject ∧ session.uuid? = subject.userId?
  /-- A request is sent with the username and the password if they have been chosen, and else without any. -/
  authorization : ∀ request : Request, valuesNamed Client.authorizationHeader (Client.callers request) = [] →
    valuesNamed Client.authorizationHeader (session.client.message request).headers = (lastToken? settings).toList
  /-- So is whatever the calls of a session send. -/
  calls : ∀ (turns : List Turn) {α : Type} (transport : Transport) (call : Call α),
    ∀ message ∈ ((session.after turns).make transport call).messages,
      valuesNamed Client.authorizationHeader message.headers = (lastToken? settings).toList
  token : (∃ value, lastToken? settings = some value) ↔ ∃ choice ∈ settings, choice.setter = .basicAuth
  baseUrlGiven : ∀ text, last? .baseUrl settings = some (.baseUrl text) →
    session.client.baseUrl.text.toList = BaseUrl.normalized text.toList
  baseUrlMade : last? .baseUrl settings = none → session.client.baseUrl.text =
    "https://" ++ String.ofList (trim (((last? .host settings).bind Setting.text?).getD "localhost").toList) ++ ":" ++
      toString (((last? .port settings).bind Setting.port?).getD 8443).toNat ++ "/candlepin"

theorem opened {settings : List Setting} (h : (ofDraft (.ofSettings settings)).result = .ok session) :
    Opened settings session := by
  obtain ⟨config, hb, ho⟩ := ofDraft_ok h
  obtain ⟨⟨choice, hc, hk⟩, hh, hu⟩ := Draft.build_ok hb
  obtain ⟨hclient, hcredentials, -⟩ := ofConfig_ok ho
  obtain ⟨hurl, -, -⟩ := Client.ofConfig_ok hclient
  have kinds := hc.credentials_ok hk
  -- what follows is read off the session's own credentials, once for each kind
  rw [← hcredentials] at kinds
  have htoken : Client.token? config.credentials = lastToken? settings := by
    rw [← hcredentials, lastToken?]
    rcases kinds with ⟨name, password, hb, hi, eq⟩ | ⟨certificate, key, identity, hb, hi, -, eq⟩ <;> rw [hb, eq] <;> rfl
  have authorization : ∀ request : Request, valuesNamed Client.authorizationHeader (Client.callers request) = [] →
      valuesNamed Client.authorizationHeader (session.client.message request).headers =
        (lastToken? settings).toList := by
    intro request hr
    rw [Client.authorization_message hclient hr, htoken]
  exact
    { oneMode := by
        rw [← exists_last?_iff, ← exists_last?_iff]
        rcases kinds with ⟨name, password, hb, hi, -⟩ | ⟨certificate, key, identity, hb, hi, -, -⟩ <;> simp [hb, hi]
      certificateMode := by
        rw [← exists_last?_iff]
        rcases kinds with ⟨name, password, hb, hi, eq⟩ | ⟨certificate, key, identity, hb, hi, -, eq⟩ <;>
          simp [hi, eq, Credentials.mode]
      basicMode := by
        rw [← exists_last?_iff]
        rcases kinds with ⟨name, password, hb, hi, eq⟩ | ⟨certificate, key, identity, hb, hi, -, eq⟩ <;>
          simp [hb, eq, Credentials.mode]
      uuid := by
        rw [← exists_last?_iff]
        rcases kinds with ⟨name, password, hb, hi, eq⟩ | ⟨certificate, key, identity, hb, hi, -, eq⟩ <;>
          simp [uuid?, hi, eq, Credentials.uuid?]
      identity := by
        rcases kinds with ⟨name, password, hb, hi, eq⟩ | ⟨certificate, key, identity, hb, hi, read, eq⟩
        · rw [identityPem?, hi, eq]
          rfl
        · obtain ⟨subject, -, -, -, kept, -, -⟩ := IdentityCertificate.read_ok read
          rw [identityPem?, hi, eq, ← kept]
          rfl
      owner := by
        intro certificate key chosen
        rcases kinds with ⟨name, password, hb, hi, eq⟩ | ⟨certificate', key', identity, hb, hi, read, eq⟩
        · rw [hi] at chosen; cases chosen
        · rw [hi] at chosen
          cases chosen
          obtain ⟨subject, hs, hid, -⟩ := IdentityCertificate.read_ok read
          refine ⟨subject, hs, ?_⟩
          rw [uuid?, eq, hid]
          rfl
      authorization
      calls := by
        intro turns α transport call message hm
        obtain ⟨operation, rfl⟩ := mem_make_messages hm
        rw [after_client]
        exact authorization operation.request rfl
      token := by
        rw [← exists_last?_iff]
        rcases kinds with ⟨name, password, hb, hi, eq⟩ | ⟨certificate, key, identity, hb, hi, -, eq⟩ <;>
          simp [lastToken?, hb, Setting.pair?]
      baseUrlGiven := by
        intro text chosen
        rw [hurl]
        rw [baseUrlOf, chosen] at hu
        exact (BaseUrl.of_ok hu).1
      baseUrlMade := by
        intro none_chosen
        rw [baseUrlOf, none_chosen] at hu
        rw [hurl, ← Except.ok.inj hu, BaseUrl.ofHost_text, hostOf_ok hh]
        rfl }

/-- A series of choices settles its configuration, and what is known of a session that is opened with it. -/
theorem settings_settle (settings : List Setting) : Draft.Determined settings ∧
    ∀ session, (ofDraft (.ofSettings settings)).result = .ok session → Opened settings session :=
  ⟨Draft.ofSettings_determined settings, fun _ h => opened h⟩

/-- A port and a username that are chosen twice. -/
def sampleSettings : List Setting :=
  [.basicAuth "root" "", .port 80, .host " candlepin.example ", .basicAuth "admin" "secret", .port 443]

theorem settings_settle_admin : ∃ session, (ofDraft (.ofSettings sampleSettings)).result = .ok session ∧
    session.client.baseUrl.text = "https://candlepin.example:443/candlepin" ∧ Opened sampleSettings session := by
  have credentials :
      (Setting.basicAuth "admin" "secret").credentials = .ok (.basic ⟨"admin", by decide⟩ ⟨"secret"⟩) := rfl
  obtain ⟨host, hh⟩ : ∃ host, hostOf sampleSettings = .ok host := ⟨_, rfl⟩
  have baseUrl : baseUrlOf sampleSettings host = .ok (.ofHost host 443) := rfl
  obtain ⟨session, h, -, -⟩ := opens (.inl ⟨rfl, rfl⟩) credentials hh baseUrl rfl
  have known := (settings_settle sampleSettings).2 session h
  exact ⟨session, h, (known.baseUrlMade rfl).trans (by decide), known⟩

end Session

end EntitlementClient
