/-
Histories: what a session knows after any calls with any outcomes. It keeps its configuration, and
its consumer is the one that came with the last registration that succeeded.
-/
import EntitlementClient.Proofs.Choices
import EntitlementClient.Proofs.Http.Setup
import EntitlementClient.Proofs.Session.Call

namespace EntitlementClient

open EntitlementClient.Http

/-- One call of a history, with what carried its message then. -/
structure Turn : Type 1 where
  {Result : Type}
  call : Call Result
  transport : Transport

/-- The session after a history. -/
def Session.after : Session → List Turn → Session
  | session, [] => session
  | session, turn :: turns => (session.step turn.transport turn.call).2.after turns

/-- The consumer in a reply that tells of success. -/
def Http.Reply.consumer? (reply : Reply) : Option Consumer :=
  if reply.Succeeds then (Consumer.shape.decode reply.body.toList).toOption else none

/-- The consumer that a turn registers: it is in the reply to a registration. -/
def Turn.registered? (client : Client) : Turn → Option Consumer
  | ⟨.operation (.register name type uuid), transport⟩ =>
    (client.reply? transport (Operation.register name type uuid).request).bind Reply.consumer?
  | _ => none

/-- The consumer that has been registered last in a history. -/
def lastRegistered? (client : Client) (turns : List Turn) : Option Consumer :=
  lastOf? (Turn.registered? client) turns

namespace Session

variable {α : Type} {session : Session} {transport : Transport}

/-! ## Single turns -/

/-- A registration gives the consumer in the reply, and nothing else. -/
theorem register_result (name : String) (type uuid : Option String) (consumer : Consumer) :
    (session.make transport (.operation (.register name type uuid))).result = .ok consumer ↔
      Turn.registered? session.client ⟨.operation (.register name type uuid), transport⟩ = some consumer := by
  show (session.perform transport _).result = _ ↔ _
  rw [perform_result]
  simp only [Turn.registered?]
  rcases session.client.reply? transport (Operation.register name type uuid).request with _ | reply
  · simp
  · simp only [Option.bind_some, Reply.consumer?]
    by_cases hok : reply.Succeeds
    · rw [if_pos hok, Operation.judge_of_succeeds hok]
      refine (((Response.ofReply reply).decodes Consumer.shape _).ok consumer).trans ?_
      show _ ↔ (Consumer.shape.decode (Response.ofReply reply).body.toList).toOption = some consumer
      rcases Consumer.shape.decode (Response.ofReply reply).body.toList with fault | c <;> simp [Except.toOption]
    · rw [if_neg hok, Operation.judge_of_refused hok]
      simp

theorem step_session (call : Call α) :
    (session.step transport call).2 = session.learn call (session.make transport call).result := rfl

/-- Nothing is learnt from a call that is not a registration. -/
theorem step_of_not_registered {call : Call α} (h : ∀ a, registered? call a = none) :
    (session.step transport call).2 = session := by
  rw [step_session]
  rcases (session.make transport call).result with e | a
  · rfl
  · simp only [learn, h]

/-- A turn is a registration, or it registers nothing. -/
theorem turn_cases (turn : Turn) :
    (∃ name type uuid transport, turn = ⟨.operation (.register name type uuid), transport⟩) ∨
      (∀ client, turn.registered? client = none) ∧ ∀ a, registered? turn.call a = none := by
  obtain ⟨call, transport⟩ := turn
  rcases call with op | ⟨uuid, op⟩ | op | ⟨pool, today⟩
  · cases op
    case register name type uuid => exact .inl ⟨name, type, uuid, transport, rfl⟩
    all_goals exact .inr ⟨fun _ => rfl, fun _ => rfl⟩
  · exact .inr ⟨fun _ => rfl, fun _ => rfl⟩
  · exact .inr ⟨fun _ => rfl, fun _ => rfl⟩
  · exact .inr ⟨fun _ => rfl, fun _ => rfl⟩

/-- A consumer that a turn registers becomes the session's own, and nothing else changes. -/
theorem step_eq (turn : Turn) : (session.step turn.transport turn.call).2 =
    { session with consumer := (turn.registered? session.client).or session.consumer } := by
  rcases turn_cases turn with ⟨name, type, uuid, transport, rfl⟩ | ⟨hnone, hcall⟩
  · rw [step_session]
    rcases hm : (session.make transport (.operation (.register name type uuid))).result with e | consumer
    · rcases hr : Turn.registered? session.client ⟨.operation (.register name type uuid), transport⟩ with _ | consumer
      · rfl
      · rw [(register_result name type uuid consumer).2 hr] at hm
        cases hm
    · rw [(register_result name type uuid consumer).1 hm]
      rfl
  · rw [hnone, step_of_not_registered hcall]
    rfl

/-- Only registrations change a session. -/
theorem step_of_other (turn : Turn)
    (h : ∀ name type uuid transport, turn ≠ ⟨.operation (.register name type uuid), transport⟩) :
    (session.step turn.transport turn.call).2 = session := by
  rcases turn_cases turn with ⟨name, type, uuid, transport, ht⟩ | ⟨-, hcall⟩
  · exact absurd ht (h name type uuid transport)
  · exact step_of_not_registered hcall

theorem step_of_error (turn : Turn) {e : ClientError} (h : (session.make turn.transport turn.call).result = .error e) :
    (session.step turn.transport turn.call).2 = session := by
  rw [step_session, h]
  rfl

theorem step_client (turn : Turn) : (session.step turn.transport turn.call).2.client = session.client := by
  rw [step_eq]

theorem step_credentials (turn : Turn) :
    (session.step turn.transport turn.call).2.credentials = session.credentials := by
  rw [step_eq]

/-! ## Histories -/

theorem after_client : ∀ (session : Session) (turns : List Turn), (session.after turns).client = session.client
  | _, [] => rfl
  | session, turn :: turns => by
    rw [after, after_client _ turns, step_client]

theorem after_credentials : ∀ (session : Session) (turns : List Turn),
    (session.after turns).credentials = session.credentials
  | _, [] => rfl
  | session, turn :: turns => by
    rw [after, after_credentials _ turns, step_credentials]

/-- The consumer of a session is the last that has been registered, or the one that it began with. -/
theorem after_consumer : ∀ (session : Session) (turns : List Turn), (session.after turns).consumer =
    (lastRegistered? session.client turns).or session.consumer
  | _, [] => rfl
  | session, turn :: turns => by
    rw [after, after_consumer _ turns, step_client, step_eq, lastRegistered?, lastRegistered?, lastOf?_cons,
      Option.or_assoc]

/-! ## What a session knows -/

theorem ofConfig_ok {config : Config} (h : (ofConfig config).result = .ok session) :
    (Client.ofConfig config).result = .ok session.client ∧ session.credentials = config.credentials ∧
      session.consumer = none := by
  obtain ⟨client, hc, hs⟩ := Traced.bind_ok h
  cases hs
  exact ⟨hc, rfl, rfl⟩

/-- What a session of a configuration knows after a history, and what it goes by. -/
structure Knows (config : Config) (client : Client) (turns : List Turn) (session : Session) : Prop where
  /-- The consumer is the one that has been registered last. -/
  ownConsumer : session.consumer = lastRegistered? client turns
  sameClient : session.client = client
  sameBaseUrl : session.client.baseUrl = config.baseUrl
  sameCredentials : session.credentials = config.credentials
  sameUuid : session.uuid? = config.credentials.uuid?
  /-- A registration gives the consumer that it registers, or else fails. -/
  registration : ∀ (transport : Transport) (name : String) (type uuid : Option String) (consumer : Consumer),
    (session.make transport (.operation (.register name type uuid))).result = .ok consumer ↔
      Turn.registered? client ⟨.operation (.register name type uuid), transport⟩ = some consumer
  /-- The next turn changes the consumer only by registering another. -/
  next : ∀ turn : Turn, (session.step turn.transport turn.call).2 =
    { session with consumer := (turn.registered? client).or session.consumer }
  /-- No other call changes anything, not even one that unregisters the consumer. -/
  others : ∀ turn : Turn, (∀ name type uuid transport, turn ≠ ⟨.operation (.register name type uuid), transport⟩) →
    (session.step turn.transport turn.call).2 = session
  /-- A call that fails changes nothing. -/
  failure : ∀ (turn : Turn) (e : ClientError), (session.make turn.transport turn.call).result = .error e →
    (session.step turn.transport turn.call).2 = session
  /-- The uuid in a certificate comes before that of the registered consumer. -/
  currentUuid : session.currentUuid =
    match config.credentials, (lastRegistered? client turns).bind (·.uuid) with
    | .certificate identity, _ => .ok identity.uuid
    | .basic _ _, some uuid => .ok uuid
    | .basic _ _, none => .error .noConsumer
  hasCurrent : (∃ uuid, session.currentUuid = .ok uuid) ↔ (∃ identity, config.credentials = .certificate identity) ∨
    ∃ consumer, lastRegistered? client turns = some consumer ∧ consumer.uuid.isSome
  /-- Calls for the session's own consumer are calls for the consumer with its uuid. -/
  scope : ∀ {α : Type} (transport : Transport) (operation : ConsumerOperation α),
    session.make transport (.current operation) =
      match session.currentUuid with
      | .ok uuid => session.make transport (.scoped uuid operation)
      | .error e => Traced.fail e

/-- The uuid of the session's own consumer, from the credentials and the consumer. -/
theorem currentUuid_eq : session.currentUuid =
    match session.credentials, session.consumer.bind (·.uuid) with
    | .certificate identity, _ => .ok identity.uuid
    | .basic _ _, some uuid => .ok uuid
    | .basic _ _, none => .error .noConsumer := by
  unfold currentUuid uuid?
  rcases session.credentials with ⟨username, password⟩ | identity
  · rcases session.consumer.bind (·.uuid) with _ | uuid <;> rfl
  · rfl

theorem currentUuid_ok_iff : (∃ uuid, session.currentUuid = .ok uuid) ↔
    (∃ identity, session.credentials = .certificate identity) ∨
      ∃ consumer, session.consumer = some consumer ∧ consumer.uuid.isSome := by
  rw [currentUuid_eq]
  rcases session.credentials with ⟨username, password⟩ | identity
  · rcases session.consumer with _ | consumer
    · simp
    · rcases hu : consumer.uuid with _ | uuid <;> simp [hu]
  · simp

theorem make_current (transport : Transport) (operation : ConsumerOperation α) :
    session.make transport (.current operation) =
      match session.currentUuid with
      | .ok uuid => session.make transport (.scoped uuid operation)
      | .error e => Traced.fail e := by
  rcases hu : session.currentUuid with e | uuid
  · exact make_of_no_consumer rfl hu
  · unfold make
    rw [hu]
    rfl

/-- After any history of calls, whatever came of them, a session knows the consumer that has been
registered last, and of its configuration what it has known from the start. -/
theorem after_knows {config : Config} {opened : Session} (h : (ofConfig config).result = .ok opened)
    (turns : List Turn) : (opened.after turns).Knows config opened.client turns := by
  obtain ⟨hclient, hcredentials, hnone⟩ := ofConfig_ok h
  have hc : (opened.after turns).client = opened.client := after_client opened turns
  have hk : (opened.after turns).credentials = config.credentials := by
    rw [after_credentials, hcredentials]
  have hr : (opened.after turns).consumer = lastRegistered? opened.client turns := by
    rw [after_consumer, hnone, Option.or_none]
  exact
    { ownConsumer := hr
      sameClient := hc
      sameBaseUrl := by rw [hc]; exact (Client.ofConfig_ok hclient).1
      sameCredentials := hk
      sameUuid := congrArg Credentials.uuid? hk
      registration := fun transport name type uuid consumer => by rw [register_result, hc]
      next := fun turn => by rw [step_eq, hc]
      others := fun turn hne => step_of_other turn hne
      failure := fun turn _ he => step_of_error turn he
      currentUuid := by rw [currentUuid_eq, hk, hr]
      hasCurrent := by rw [currentUuid_ok_iff, hk, hr]
      scope := make_current }

/-! ## A history -/

/-- A configuration with a username and a password. -/
def sampleConfig : Config where
  credentials := .basic ⟨"admin", by decide⟩ ⟨"secret"⟩
  host := .standard
  port := Config.standardPort
  baseUrl := ⟨"http", "candlepin"⟩
  userAgentPrefix := none
  acceptInvalidCertificates := false

/-- The session of the configuration. -/
def sample : Session where
  client :=
    { baseUrl := sampleConfig.baseUrl
      basicAuth := Client.basicAuth? sampleConfig.credentials
      presentation := none
      defaultHeaders := NameMap.ofList [(Client.userAgentHeader, Client.userAgent none)] }
  credentials := sampleConfig.credentials

/-- A transport that gives the same reply to everything. -/
def replying (status : Nat) (body : String) (three_digits : 100 ≤ status ∧ status ≤ 999 := by decide) : Transport :=
  fun _ => .reply { status, headers := [], body, three_digits }

/-- A transport that answers everything with success. -/
def answering (body : String) : Transport :=
  replying 200 body

/-- A consumer is registered, another one is refused, and the first one is unregistered. -/
def sampleHistory : List Turn :=
  [⟨.operation (.register "laptop" none none), answering "\x7b\"uuid\":\"u1\"\x7d"⟩,
    ⟨.operation (.register "desktop" none none), replying 500 ""⟩,
    ⟨.current .unregister, replying 204 ""⟩]

/-- The consumer that was unregistered is still the session's own. -/
theorem sample_currentUuid : (sample.after sampleHistory).currentUuid = .ok "u1" := by
  have hu : ((lastRegistered? sample.client sampleHistory).or sample.consumer).bind (·.uuid) = some "u1" := by
    decide +kernel
  rw [currentUuid_eq, after_credentials, after_consumer, hu]
  rfl

theorem after_knows_unregistered : (ofConfig sampleConfig).result = .ok sample ∧
    (sample.after sampleHistory).Knows sampleConfig sample.client sampleHistory ∧
      (sample.after sampleHistory).currentUuid = .ok "u1" :=
  ⟨rfl, after_knows rfl sampleHistory, sample_currentUuid⟩

end Session

end EntitlementClient
