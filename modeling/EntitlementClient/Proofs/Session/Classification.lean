/-
What comes of a call: the reply that arrives, or that none arrives, settles the result, and a status
is reported exactly for a reply that tells of a refusal.
-/
import EntitlementClient.Proofs.Session.History

namespace EntitlementClient

open EntitlementClient.Http EntitlementClient.Text

variable {α : Type}

/-- What it means that a result is what an operation makes of the reply that arrives, if one does. -/
structure Classified (operation : Operation α) (reply? : Option Reply) (result : Except ClientError α) : Prop where
  lost : reply? = none → result = .error (.transport .network)
  refused : ∀ reply, reply? = some reply → ¬reply.Succeeds →
    result = .error (.transport (.response reply.status reply.body reply.reference?))
  read : ∀ reply, reply? = some reply → reply.Succeeds → operation.Reads reply.body result
  /-- A status is reported for a refusal and for nothing else. -/
  status : ∀ code, (∃ e, result = .error e ∧ e.status? = some code) ↔
    ∃ reply, reply? = some reply ∧ ¬reply.Succeeds ∧ reply.status = code

namespace Session

variable {session : Session} {transport : Transport}

/-- An operation is classified by the reply to its request. -/
theorem perform_classified (operation : Operation α) : Classified operation
    (session.client.reply? transport operation.request) (session.perform transport operation).result := by
  rw [perform_result]
  rcases session.client.reply? transport operation.request with _ | reply
  · exact
      { lost := fun _ => rfl
        refused := by rintro reply ⟨⟩
        read := by rintro reply ⟨⟩
        status := by
          intro code
          constructor
          · rintro ⟨e, ⟨⟩, hs⟩
            cases hs
          · rintro ⟨reply, ⟨⟩, -⟩ }
  · show Classified operation (some reply) (operation.judge reply)
    by_cases hok : reply.Succeeds
    · rw [Operation.judge_of_succeeds hok]
      exact
        { lost := by rintro ⟨⟩
          refused := by
            rintro reply ⟨⟩ hno
            exact absurd hok hno
          read := by
            rintro reply ⟨⟩ -
            exact operation.reads (Response.ofReply reply)
          status := by
            intro code
            constructor
            · rintro ⟨e, he, hs⟩
              obtain ⟨message, rfl⟩ := Answer.read_error he
              cases hs
            · rintro ⟨reply, ⟨⟩, hno, -⟩
              exact absurd hok hno }
    · rw [Operation.judge_of_refused hok]
      exact
        { lost := by rintro ⟨⟩
          refused := by
            rintro reply ⟨⟩ -
            rfl
          read := by
            rintro reply ⟨⟩ hyes
            exact absurd hyes hok
          status := by
            intro code
            constructor
            · rintro ⟨e, ⟨⟩, hs⟩
              exact ⟨reply, rfl, hok, Option.some.inj hs⟩
            · rintro ⟨reply, ⟨⟩, -, rfl⟩
              exact ⟨_, rfl, rfl⟩ }

/-- A call that comes to an operation is classified by the reply to the request of the operation. The
server's name for the request is the first value under the name of its header. The body of the
response is the text of the reply, and that is the text that was sent where it arrives in UTF-8. -/
theorem make_classified {call : Call α} {operation : Operation α}
    (h : call.operation? session.currentUuid = some operation) (transport : Transport) :
    Classified operation (session.client.reply? transport operation.request) (session.make transport call).result ∧
      (∀ reply : Reply, (Response.ofReply reply).requestId? = reply.reference? ∧
        (Response.ofReply reply).body = reply.body) ∧
      ∀ (status : Nat) (headers : List (String × List UInt8)) (text : String)
        (digits : 100 ≤ status ∧ status ≤ 999), hasBody status = true → text.toList.head? ≠ some '\uFEFF' →
          (Reply.ofUtf8 status headers (Utf8.encode text.toList) digits).body = text := by
  refine ⟨?_, fun reply => ⟨Response.requestId?_ofReply reply, Response.body_ofReply reply⟩,
    fun status headers text digits => Reply.body_ofUtf8⟩
  rw [(make_of_operation h).1]
  exact perform_classified operation

/-- An owner whom the server does not know. -/
theorem getOwner_classified : (sample.make (replying 404 "unknown") (.operation (.getOwner "o1"))).result =
    .error (.transport (.response 404 "unknown" none)) := by
  have hr : sample.client.reply? (replying 404 "unknown") (Operation.getOwner "o1").request =
      some { status := 404, headers := [], body := "unknown" } :=
    Client.reply?_eq_some.2 ⟨by decide +kernel, rfl⟩
  obtain ⟨hc, -⟩ := @make_classified _ sample (.operation (.getOwner "o1")) _ rfl (replying 404 "unknown")
  exact hc.refused _ hr (by decide)

end Session

end EntitlementClient
