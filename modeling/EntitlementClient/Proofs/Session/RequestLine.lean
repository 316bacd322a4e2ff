/-
The request line determines the call: calls that are sent with the same method and the same path are
the same operation with the same arguments in the path and the query.
-/
import EntitlementClient.Proofs.Operation.Decoding
import EntitlementClient.Proofs.Session.History

namespace EntitlementClient

open EntitlementClient.Http

variable {α : Type}

namespace Session

variable {session : Session} {transport : Transport}

/-- The endpoint that a call comes to in a session. -/
def endpoint? (session : Session) (call : Call α) : Option Endpoint :=
  (call.operation? session.currentUuid).map Operation.endpoint

theorem make_requests {call : Call α} {operation : Operation α}
    (h : call.operation? session.currentUuid = some operation) :
    (session.make transport call).requests = [operation.request] := by
  rw [(make_of_operation h).2.1, perform_requests]

/-- A call that comes to no operation requests nothing. -/
theorem make_requests_of_none {call : Call α} (h : call.operation? session.currentUuid = none) :
    (session.make transport call).requests = [] := by
  rcases call with op | ⟨uuid, op⟩ | op | ⟨pool, today⟩
  · cases h
  · cases h
  · rcases hu : session.currentUuid with e | uuid
    · rw [make_of_no_consumer rfl hu, Traced.requests_fail]
    · rw [hu] at h
      cases h
  · have hp : pool.request? today = none := Option.map_eq_none_iff.1 h
    simp only [make, hp, Traced.requests_fail]

/-- What a call requests is the request of its operation. -/
theorem eq_of_mem_requests {call : Call α} {request : Request} (h : request ∈ (session.make transport call).requests) :
    ∃ operation, call.operation? session.currentUuid = some operation ∧ request = operation.request := by
  rcases ho : call.operation? session.currentUuid with _ | operation
  · rw [make_requests_of_none ho] at h
    cases h
  · rw [make_requests ho] at h
    exact ⟨operation, rfl, List.mem_singleton.1 h⟩

theorem ofLine?_of_mem_requests {call : Call α} {request : Request}
    (h : request ∈ (session.make transport call).requests) :
    Endpoint.ofLine? request.method request.path = session.endpoint? call := by
  obtain ⟨operation, ho, rfl⟩ := eq_of_mem_requests h
  rw [operation.ofLine?_request, endpoint?, ho, Option.map_some]

/-- The endpoint of every operation is read from the method and the path of its request, and so
calls with the same request line, whoever makes them, come to the same endpoint. -/
theorem request_line_determines_endpoint :
    (∀ {α : Type} (operation : Operation α),
      Endpoint.ofLine? operation.request.method operation.request.path = some operation.endpoint) ∧
    ∀ {α β : Type} (session session' : Session) (transport transport' : Transport) (call : Call α) (call' : Call β)
      (request request' : Request),
      request ∈ (session.make transport call).requests → request' ∈ (session'.make transport' call').requests →
      request.method = request'.method → request.path = request'.path →
      session.endpoint? call = session'.endpoint? call' := by
  refine ⟨Operation.ofLine?_request, ?_⟩
  intro α β session session' transport transport' call call' request request' h h' hmethod hpath
  rw [← ofLine?_of_mem_requests h, ← ofLine?_of_mem_requests h', hmethod, hpath]

/-- To unregister the session's own consumer is to unregister the consumer with its uuid. -/
theorem unregister_line : sample.endpoint? (.scoped "u1" .unregister) =
    (sample.after sampleHistory).endpoint? (.current .unregister) := by
  have ho :
      (Call.current .unregister).operation? (sample.after sampleHistory).currentUuid = some (.unregister "u1") := by
    rw [sample_currentUuid]
    rfl
  have hs : (Call.scoped "u1" .unregister).operation? sample.currentUuid = some (.unregister "u1") := rfl
  refine request_line_determines_endpoint.2 sample (sample.after sampleHistory) (replying 204 "") (replying 204 "")
    (.scoped "u1" .unregister) (.current .unregister) (Operation.unregister "u1").request
    (Operation.unregister "u1").request ?_ ?_ rfl rfl
  · rw [make_requests hs]
    exact List.mem_singleton_self _
  · rw [make_requests ho]
    exact List.mem_singleton_self _

end Session

end EntitlementClient
