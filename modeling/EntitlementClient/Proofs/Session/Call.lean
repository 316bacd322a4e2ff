/-
Calls come to operations: which one depends on the session only through the uuid of its own
consumer, and a call that comes to none fails before anything is sent. What a call does is what an
exchange for the request of its operation does.
-/
import EntitlementClient.Proofs.Http.Exchange
import EntitlementClient.Proofs.Operation.Reading
import EntitlementClient.Proofs.Operation.Request
import EntitlementClient.Session.Basic

namespace EntitlementClient

open EntitlementClient.Http

variable {α : Type}

namespace Call

/-- The operation that a call comes to in a session whose own consumer has the uuid `own`. -/
def operation? (own : Except ClientError String) : Call α → Option (Operation α)
  | .operation op => some op
  | .scoped uuid op => some (op.of uuid)
  | .current op => own.toOption.map op.of
  | .createPool pool today => (pool.request? today).map .createPool

/-- Whether a call is made for the session's own consumer. -/
def isCurrent : Call α → Bool
  | .current _ => true
  | _ => false

/-- Whether the end of a pool to be created lies within the calendar. -/
def InCalendar : Call α → Prop
  | .createPool pool today => (pool.request? today).isSome
  | _ => True

/-- A call comes to an operation unless it is made for a consumer that there is not. -/
theorem operation?_eq_none {own : Except ClientError String} {call : Call α} (h : call.InCalendar) :
    call.operation? own = none ↔ call.isCurrent = true ∧ ∃ e, own = .error e := by
  rcases call with op | ⟨uuid, op⟩ | op | ⟨pool, today⟩
  · simp [operation?, isCurrent]
  · simp [operation?, isCurrent]
  · rcases own with e | uuid <;> simp [operation?, isCurrent, Except.toOption]
  · simp only [InCalendar, Option.isSome_iff_ne_none] at h
    simp [operation?, isCurrent, h]

end Call

/-- What an operation gives for the reply that arrives. -/
def Operation.judge (operation : Operation α) (reply : Reply) : Except ClientError α :=
  (Client.judge reply).bind fun response => operation.answer.read response operation.request.path

theorem Operation.judge_of_succeeds {operation : Operation α} {reply : Reply} (h : reply.Succeeds) :
    operation.judge reply = operation.answer.read (Response.ofReply reply) operation.request.path := by
  unfold judge
  rw [Client.judge_of_succeeds h]
  rfl

theorem Operation.judge_of_refused {operation : Operation α} {reply : Reply} (h : ¬reply.Succeeds) :
    operation.judge reply = .error (.transport (.response reply.status reply.body reply.reference?)) := by
  unfold judge
  rw [Client.judge_of_refused h]
  rfl

namespace Session

variable {session : Session} {transport : Transport}

/-! ## Operations -/

@[simp] theorem report_result (operation : Operation α) (a : α) : (report operation a).result = .ok () := by
  cases operation <;> rfl

@[simp] theorem report_requests (operation : Operation α) (a : α) : (report operation a).requests = [] := by
  cases operation <;> rfl

@[simp] theorem report_messages (operation : Operation α) (a : α) : (report operation a).messages = [] := by
  cases operation <;> rfl

/-- The result of an operation is settled by the reply that arrives. -/
theorem perform_result (operation : Operation α) : (session.perform transport operation).result =
    match session.client.reply? transport operation.request with
    | some reply => operation.judge reply
    | none => .error (.transport .network) := by
  unfold perform
  rw [Traced.result_bind, Client.exchange_result operation.request_verify]
  rcases session.client.reply? transport operation.request with _ | reply
  · rfl
  · simp only [Operation.judge]
    rcases Client.judge reply with e | response
    · rfl
    · rcases hr : operation.answer.read response operation.request.path with e | a <;> simp [Except.bind, hr]

theorem perform_requests (operation : Operation α) :
    (session.perform transport operation).requests = [operation.request] := by
  unfold perform
  simp

theorem perform_messages (operation : Operation α) :
    (session.perform transport operation).messages =
      (session.client.exchange transport operation.request).messages := by
  unfold perform
  simp

/-- Nothing but the message of its request is delivered when an operation is done. -/
theorem mem_perform_messages {operation : Operation α} {message : Message}
    (h : message ∈ (session.perform transport operation).messages) :
    message = session.client.message operation.request :=
  Client.eq_message_of_mem (perform_messages operation ▸ h)

/-! ## Calls -/

@[simp] theorem announce_result (uuid : String) (operation : ConsumerOperation α) :
    (announce uuid operation).result = .ok () := by
  cases operation <;> rfl

@[simp] theorem announce_requests (uuid : String) (operation : ConsumerOperation α) :
    (announce uuid operation).requests = [] := by
  cases operation <;> rfl

@[simp] theorem announce_messages (uuid : String) (operation : ConsumerOperation α) :
    (announce uuid operation).messages = [] := by
  cases operation <;> rfl

/-- An operation of a consumer is announced in the log, and then done. -/
theorem performAs_eq (uuid : String) (operation : ConsumerOperation α) :
    (session.performAs transport uuid operation).result = (session.perform transport (operation.of uuid)).result ∧
      (session.performAs transport uuid operation).requests = (session.perform transport (operation.of uuid)).requests ∧
      (session.performAs transport uuid operation).messages =
        (session.perform transport (operation.of uuid)).messages := by
  unfold performAs
  simp [Except.bind]

/-- A call does what the operation does that it comes to, but for lines in the log. -/
theorem make_of_operation {call : Call α} {operation : Operation α}
    (h : call.operation? session.currentUuid = some operation) :
    (session.make transport call).result = (session.perform transport operation).result ∧
      (session.make transport call).requests = (session.perform transport operation).requests ∧
      (session.make transport call).messages = (session.perform transport operation).messages := by
  rcases call with op | ⟨uuid, op⟩ | op | ⟨pool, today⟩
  · cases h; exact ⟨rfl, rfl, rfl⟩
  · cases h; exact performAs_eq uuid op
  · rcases ho : session.currentUuid with e | uuid
    · rw [ho] at h; cases h
    · rw [ho] at h; cases h
      unfold make
      rw [ho]
      exact performAs_eq uuid op
  · rcases hp : pool.request? today with _ | request
    · simp [Call.operation?, hp] at h
    · simp only [Call.operation?, hp, Option.map_some, Option.some.injEq] at h
      have hm : session.make transport (.createPool pool today) = session.perform transport (.createPool request) := by
        simp only [make, hp]
      rw [hm, h]
      exact ⟨rfl, rfl, rfl⟩

/-- A call for a consumer that there is not fails at once. -/
theorem make_of_no_consumer {call : Call α} {e : ClientError} (h : call.isCurrent = true)
    (he : session.currentUuid = .error e) : session.make transport call = Traced.fail e := by
  rcases call with op | ⟨uuid, op⟩ | op | ⟨pool, today⟩
  · cases h
  · cases h
  · unfold make
    rw [he]
    rfl
  · cases h

end Session

end EntitlementClient
