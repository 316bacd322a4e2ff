/-
The log of a session: what a call writes depends on the operation that it comes to, on the reply that
arrives and on what is read from it.
-/
import EntitlementClient.Proofs.Session.History

namespace EntitlementClient

open EntitlementClient.Http

variable {α : Type}

namespace Session

variable {session : Session} {transport : Transport}

theorem perform_logLines (operation : Operation α) : (session.perform transport operation).logLines =
    .sending operation.request.method operation.request.path ::
      match session.client.reply? transport operation.request with
      | some reply => Client.replyLines operation.request reply ++
          Traced.ifOk (fun a => (report operation a).logLines) (operation.judge reply)
      | none => [] := by
  unfold perform
  rw [Traced.logLines_bind, Client.exchange_logLines operation.request_verify,
    Client.exchange_result operation.request_verify]
  rcases session.client.reply? transport operation.request with _ | reply
  · rfl
  · rcases hj : Client.judge reply with e | response
    · simp [Operation.judge, hj, Except.bind]
    · rcases hr : operation.answer.read response operation.request.path with e | a <;>
        simp [Operation.judge, hj, hr, Except.bind]

theorem performAs_logLines (uuid : String) (operation : ConsumerOperation α) :
    (session.performAs transport uuid operation).logLines =
      (announce uuid operation).logLines ++ (session.perform transport (operation.of uuid)).logLines := by
  unfold performAs
  rw [Traced.logLines_bind, announce_result]
  rfl

/-- The lines that the calls of a history write. -/
def historyLines : Session → List Turn → List LogLine
  | _, [] => []
  | session, turn :: turns =>
    (session.make turn.transport turn.call).logLines ++ (session.step turn.transport turn.call).2.historyLines turns

end Session

end EntitlementClient
