/-
One exchange, said once: a request is entered once whatever becomes of it, the result for one that
fits its type is settled by the reply that arrives, and nothing but its own message is delivered.
-/
import EntitlementClient.Http.Client
import EntitlementClient.Proofs.Http.Reply
import EntitlementClient.Proofs.Trace

namespace EntitlementClient.Http

namespace Client

open EntitlementClient

/-- The reply that a client gets for a request, if one arrives. -/
def reply? (client : Client) (transport : Transport) (request : Request) : Option Reply :=
  if (client.message request).isSendable then
    match transport (client.message request) with
    | .reply reply => some reply
    | _ => none
  else none

/-- What an exchange gives for the reply that arrives: a response, or the error that tells of a
refusal. -/
def judge (reply : Reply) : Except ClientError Response :=
  let response := Response.ofReply reply
  if response.isOk then .ok response
  else .error (.transport (.response response.code response.body response.requestId?))

theorem judge_of_succeeds {reply : Reply} (h : reply.Succeeds) : judge reply = .ok (Response.ofReply reply) :=
  if_pos (decide_eq_true h)

theorem judge_of_refused {reply : Reply} (h : ¬reply.Succeeds) :
    judge reply = .error (.transport (.response reply.status reply.body reply.reference?)) := by
  rw [← Response.requestId?_ofReply]
  exact if_neg fun hok => h (of_decide_eq_true hok)

variable {client : Client} {transport : Transport} {request : Request}

/-- A reply can only arrive for a message that can be sent. -/
theorem reply?_eq_some {reply : Reply} : client.reply? transport request = some reply ↔
    (client.message request).isSendable = true ∧ transport (client.message request) = .reply reply := by
  unfold reply?
  split
  · rcases ho : transport (client.message request) with _ | _ | r <;> simp [*]
  · simp [*]

/-! ## Replies -/

@[simp] theorem receive_result (reply : Reply) : (receive request reply).result = judge reply := by
  simp only [receive, judge]
  split <;> rfl

@[simp] theorem receive_requests (reply : Reply) : (receive request reply).requests = [] := by
  simp only [receive]
  split <;> rfl

@[simp] theorem receive_messages (reply : Reply) : (receive request reply).messages = [] := by
  simp only [receive]
  split <;> rfl

/-- The lines that are written when a reply has arrived. -/
def replyLines (request : Request) (reply : Reply) : List LogLine :=
  .answered request.method request.path reply.status ::
    if reply.Succeeds then [] else [.refused reply.status request.method request.path]

@[simp] theorem receive_logLines (reply : Reply) : (receive request reply).logLines = replyLines request reply := by
  by_cases h : reply.Succeeds
  · have ok : (Response.ofReply reply).isOk = true := decide_eq_true h
    simp only [receive, replyLines, if_pos h, if_pos ok]
    rfl
  · have refused : ¬(Response.ofReply reply).isOk = true := fun hok => h (of_decide_eq_true hok)
    simp only [receive, replyLines, if_neg h, if_neg refused]
    rfl

/-! ## Exchanges -/

/-- A request is entered once, whatever becomes of it. -/
@[simp] theorem exchange_requests : (client.exchange transport request).requests = [request] := by
  unfold exchange
  rcases hv : request.verify with fault | ⟨⟩
  · rfl
  · rcases hs : (client.message request).isSendable with _ | _
    · simp [hs]
    · rcases ho : transport (client.message request) with _ | _ | reply <;> simp [hs, ho]

/-- The result of an exchange is settled by the reply that arrives. -/
theorem exchange_result (h : request.verify = .ok ()) : (client.exchange transport request).result =
    match client.reply? transport request with
    | some reply => judge reply
    | none => .error (.transport .network) := by
  unfold exchange reply?
  rw [h]
  rcases hs : (client.message request).isSendable with _ | _
  · simp [hs, Except.bind]
  · rcases ho : transport (client.message request) with _ | _ | reply <;> simp [hs, ho, Except.bind]

/-- Nothing but the message of its request is delivered in an exchange. -/
theorem exchange_messages : (client.exchange transport request).messages = [] ∨
    (client.exchange transport request).messages = [client.message request] := by
  unfold exchange
  rcases hv : request.verify with fault | ⟨⟩
  · exact .inl rfl
  · rcases hs : (client.message request).isSendable with _ | _
    · simp [hs]
    · rcases ho : transport (client.message request) with _ | _ | reply <;> simp [hs, ho]

theorem eq_message_of_mem {message : Message} (h : message ∈ (client.exchange transport request).messages) :
    message = client.message request := by
  rcases (exchange_messages : _ ∨ (client.exchange transport request).messages = _) with nothing | once
  · rw [nothing] at h
    cases h
  · rw [once] at h
    exact List.mem_singleton.1 h

/-- The message for which a reply arrives has been delivered. -/
theorem exchange_messages_of_reply (h : request.verify = .ok ()) {reply : Reply}
    (hr : client.reply? transport request = some reply) :
    (client.exchange transport request).messages = [client.message request] := by
  obtain ⟨hs, ho⟩ := reply?_eq_some.1 hr
  unfold exchange
  rw [h]
  simp [hs, ho]

/-- A message that can be sent is delivered if a connection comes about. -/
theorem exchange_messages_of_reached (h : request.verify = .ok ())
    (sendable : (client.message request).isSendable = true)
    (reached : transport (client.message request) ≠ .unreachable) :
    (client.exchange transport request).messages = [client.message request] := by
  unfold exchange
  rw [h]
  rcases ho : transport (client.message request) with _ | _ | reply
  · exact absurd ho reached
  all_goals simp [sendable, ho]

/-- A request whose body does not fit its type goes nowhere, and nothing is written to the log. -/
theorem exchange_of_fault {fault : RequestFault} (h : request.verify = .error fault) :
    (client.exchange transport request).result = .error (.transport (.invalidRequest fault)) ∧
      (client.exchange transport request).messages = [] ∧ (client.exchange transport request).logLines = [] := by
  unfold exchange
  rw [h]
  exact ⟨rfl, rfl, rfl⟩

/-- No reply makes an exchange say that its request does not fit. -/
theorem exchange_eq_invalidRequest_iff {fault : RequestFault} :
    (client.exchange transport request).result = .error (.transport (.invalidRequest fault)) ↔
      request.verify = .error fault := by
  refine ⟨fun failed => ?_, fun h => (exchange_of_fault h).1⟩
  rcases verified : request.verify with fault' | ⟨⟩
  · rw [(exchange_of_fault verified).1] at failed
    cases failed
    rfl
  · rw [exchange_result verified] at failed
    rcases arrived : client.reply? transport request with _ | reply
    · rw [arrived] at failed
      cases failed
    · rw [arrived] at failed
      by_cases h : reply.Succeeds
      · cases (judge_of_succeeds h).symm.trans failed
      · cases (judge_of_refused h).symm.trans failed

/-- What an exchange writes to the log depends on the method, the path and the reply. -/
theorem exchange_logLines (h : request.verify = .ok ()) : (client.exchange transport request).logLines =
    .sending request.method request.path ::
      match client.reply? transport request with
      | some reply => replyLines request reply
      | none => [] := by
  unfold exchange reply?
  rw [h]
  rcases hs : (client.message request).isSendable with _ | _
  · simp [hs]
  · rcases ho : transport (client.message request) with _ | _ | reply <;> simp [hs, ho]

end Client

end EntitlementClient.Http
