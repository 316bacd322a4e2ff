/-
What is sent: every call enters the exchange once, with the request in the table for its arguments,
unless it is made for the session's own consumer and there is none. What the transport sends on its
own, to follow a redirect, is not among what is handed to it.
-/
import EntitlementClient.Proofs.Operation.Endpoint
import EntitlementClient.Proofs.Session.History

namespace EntitlementClient

open EntitlementClient.Http

/-- The header that credentials add to a message, which a certificate does not. -/
def Credentials.authorization : Credentials → List (String × String)
  | .basic username password =>
    [(Client.authorizationHeader, Client.basicToken username.text password.text)]
  | .certificate _ => []

variable {α : Type}

/-- What it means that a trace sends the request of an operation once. -/
structure SendsOnce (config : Config) (client : Client) (operation : Operation α) (trace : Traced α) : Prop where
  once : trace.requests = [operation.request]
  verified : operation.request.verify = .ok ()
  built : Request.build operation.method operation.route.path operation.settings = .ok operation.request
  /-- The method and the path are those of the endpoint in the table. -/
  line : (operation.request.method, operation.request.path) = operation.endpoint.line
  accept : operation.request.accept = if operation.isText then .text else .json
  bodyType : operation.request.bodyType = operation.enclosure.mediaType?
  body : operation.enclosure.Fits operation.request.body operation.request.encodedBody
  /-- The message has these headers and no others. -/
  headers : (client.message operation.request).headers =
    (Client.acceptHeader, operation.request.accept.name) :: Client.contentType operation.enclosure.mediaType? ++
      (Client.userAgentHeader, Client.userAgent config.userAgentPrefix) :: config.credentials.authorization
  url : (client.message operation.request).url = config.baseUrl.text ++ operation.request.path
  rest : (client.message operation.request).method = operation.request.method ∧
    (client.message operation.request).body = operation.request.encodedBody
  /-- Nothing else is handed to the transport. -/
  delivered : trace.messages = [] ∨ trace.messages = [client.message operation.request]
  noInvalidRequest : ∀ fault, trace.result ≠ .error (.transport (.invalidRequest fault))
  /-- Only a reply can fail to be read. -/
  invalidJson : ∀ path text, trace.result = .error (.invalidJson path text) →
    trace.messages = [client.message operation.request]

namespace Session

variable {session : Session} {transport : Transport}

/-! ## Errors -/

/-- An operation fails because there is no answer, because the server refuses it, or because the
reply cannot be read. -/
theorem perform_error {operation : Operation α} {e : ClientError}
    (h : (session.perform transport operation).result = .error e) :
    e = .transport .network ∨ (∃ code body reference, e = .transport (.response code body reference)) ∨
      (∃ reply, session.client.reply? transport operation.request = some reply) ∧
        ∃ text, e = .invalidJson operation.request.path text := by
  rw [perform_result] at h
  rcases hr : session.client.reply? transport operation.request with _ | reply
  · rw [hr] at h; cases h; exact .inl rfl
  · have hj : operation.judge reply = .error e := by rw [hr] at h; exact h
    by_cases hok : reply.Succeeds
    · rw [Operation.judge_of_succeeds hok] at hj
      exact .inr (.inr ⟨⟨reply, rfl⟩, Answer.read_error hj⟩)
    · rw [Operation.judge_of_refused hok] at hj
      cases hj
      exact .inr (.inl ⟨_, _, _, rfl⟩)

/-! ## Calls that are sent -/

theorem authorization_eq {client : Client} {credentials : Credentials}
    (h : client.basicAuth = Client.basicAuth? credentials) : client.authorization = credentials.authorization := by
  unfold Client.authorization
  rw [h]
  rcases credentials with ⟨username, password⟩ | identity <;> rfl

/-- Every operation is sent once. -/
theorem perform_sendsOnce {config : Config} (hc : (Client.ofConfig config).result = .ok session.client)
    (operation : Operation α) : SendsOnce config session.client operation (session.perform transport operation) := by
  obtain ⟨hurl, hauth, hagent⟩ := Client.ofConfig_ok hc
  exact
    { once := perform_requests operation
      verified := operation.request_verify
      built := operation.build_settings
      line := operation.request_line
      accept := operation.request_accept
      bodyType := operation.request_bodyType
      body := operation.request_body
      headers := by rw [Client.message_headers hagent rfl, operation.request_bodyType, authorization_eq hauth]
      url := by
        show session.client.baseUrl.text ++ _ = _
        rw [hurl]
      rest := ⟨rfl, rfl⟩
      delivered := by
        rw [perform_messages]
        exact Client.exchange_messages
      noInvalidRequest := by
        intro fault h
        rcases perform_error h with h | ⟨code, body, reference, h⟩ | ⟨-, text, h⟩ <;> cases h
      invalidJson := by
        intro path text h
        rw [perform_messages]
        rcases perform_error h with h | ⟨code, body, reference, h⟩ | ⟨⟨reply, hr⟩, -⟩
        · cases h
        · cases h
        · exact Client.exchange_messages_of_reply operation.request_verify hr }

/-- So is every call that comes to an operation. -/
theorem make_sendsOnce_of_operation {config : Config} (hc : (Client.ofConfig config).result = .ok session.client)
    {call : Call α} {operation : Operation α} (h : call.operation? session.currentUuid = some operation) :
    SendsOnce config session.client operation (session.make transport call) := by
  obtain ⟨hresult, hrequests, hmessages⟩ := @make_of_operation _ session transport _ _ h
  have hs : SendsOnce config session.client operation (session.perform transport operation) :=
    perform_sendsOnce hc operation
  exact
    { hs with
      once := by rw [hrequests, hs.once]
      delivered := by rw [hmessages]; exact hs.delivered
      noInvalidRequest := by rw [hresult]; exact hs.noInvalidRequest
      invalidJson := by rw [hresult, hmessages]; exact hs.invalidJson }

/-! ## Calls of a history -/

/-- A call depends on the session only through its client and, if it is made for the session's own
consumer, through the uuid of that. -/
theorem make_congr {session session' : Session} (hc : session.client = session'.client) {call : Call α}
    (hu : call.isCurrent = true → session.currentUuid = session'.currentUuid) (transport : Transport) :
    session.make transport call = session'.make transport call := by
  have hp : ∀ operation : Operation α, session.perform transport operation = session'.perform transport operation := by
    intro operation
    unfold perform
    rw [hc]
  have ha : ∀ (uuid : String) (operation : ConsumerOperation α),
      session.performAs transport uuid operation = session'.performAs transport uuid operation := by
    intro uuid operation
    unfold performAs
    rw [hp]
  rcases call with op | ⟨uuid, op⟩ | op | ⟨pool, today⟩
  · exact hp op
  · exact ha uuid op
  · rw [make_current, make_current, hu rfl]
    rcases session'.currentUuid with e | uuid
    · rfl
    · exact ha uuid op
  · simp only [make, hp]

theorem currentUuid_error {e : ClientError} (h : session.currentUuid = .error e) : e = .noConsumer := by
  unfold currentUuid at h
  split at h
  · cases h
  · split at h <;> cases h
    rfl

/-- After any history, a call is sent once and with what the table says of it, unless it is made for
the session's own consumer and there is none: then it fails and nothing happens. What it does
depends on the history only through the uuid of that consumer. -/
theorem make_sendsOnce {config : Config} {opened : Session} (h : (ofConfig config).result = .ok opened)
    (turns : List Turn) (call : Call α) (hin : call.InCalendar) (transport : Transport) :
    (∀ operation, call.operation? (opened.after turns).currentUuid = some operation →
      SendsOnce config opened.client operation ((opened.after turns).make transport call)) ∧
    (call.operation? (opened.after turns).currentUuid = none ↔
      call.isCurrent = true ∧ (opened.after turns).currentUuid = .error .noConsumer) ∧
    (call.operation? (opened.after turns).currentUuid = none →
      (opened.after turns).make transport call = Traced.fail .noConsumer) ∧
    ∀ turns' : List Turn,
      (call.isCurrent = true → (opened.after turns).currentUuid = (opened.after turns').currentUuid) →
      (opened.after turns).make transport call = (opened.after turns').make transport call := by
  have hc : (opened.after turns).client = opened.client := after_client opened turns
  have hclient : (Client.ofConfig config).result = .ok (opened.after turns).client := by
    rw [hc]
    exact (ofConfig_ok h).1
  have hnone : call.operation? (opened.after turns).currentUuid = none ↔
      call.isCurrent = true ∧ (opened.after turns).currentUuid = .error .noConsumer := by
    rw [Call.operation?_eq_none hin]
    constructor
    · rintro ⟨hcurrent, e, he⟩
      rw [he, currentUuid_error he]
      exact ⟨hcurrent, rfl⟩
    · rintro ⟨hcurrent, he⟩
      exact ⟨hcurrent, _, he⟩
  refine ⟨?_, hnone, ?_, ?_⟩
  · intro operation ho
    rw [← hc]
    exact make_sendsOnce_of_operation hclient ho
  · intro ho
    obtain ⟨hcurrent, he⟩ := hnone.1 ho
    exact make_of_no_consumer hcurrent he
  · intro turns' hu
    exact make_congr (by rw [hc, after_client]) hu transport

/-- The consumer that has been registered is unregistered again. -/
theorem unregister_sendsOnce : SendsOnce sampleConfig sample.client (.unregister "u1")
    ((sample.after sampleHistory).make (replying 204 "") (.current .unregister)) := by
  refine (make_sendsOnce rfl sampleHistory (.current .unregister) trivial (replying 204 "")).1 (.unregister "u1") ?_
  rw [sample_currentUuid]
  rfl

end Session

end EntitlementClient
