/-
The requests of operations: each fits its type and is what the choices made for it build; a body
goes along with eleven of the operations, and two deal in plain text.
-/
import EntitlementClient.Operation

namespace EntitlementClient

open EntitlementClient.Http

/-- What goes along with an operation: nothing, a JSON value, or a text as it stands. -/
inductive Enclosure
  | nothing
  | json
  | text (content : String)
deriving DecidableEq

namespace Enclosure

/-- The type of what goes along. -/
def mediaType? : Enclosure → Option MediaType
  | nothing => none
  | json => some .json
  | text _ => some .text

/-- Whether a body, as it is written, is what goes along. -/
def Fits : Enclosure → Option Json → Option String → Prop
  | nothing, value, written => value = none ∧ written = none
  | json, value, written => ∃ document, value = some document ∧ written = some document.render
  | text content, _, written => written = some content

end Enclosure

namespace Operation

variable {α : Type}

/-- What goes along with an operation. -/
def enclosure : Operation α → Enclosure
  | createOwner _ | createUser _ _ _ | createConsumerType _ | register _ _ _ | createPool _ | createProduct _
  | createContent _ | createSubscription _ _ | createSubscriptionToken _ | uploadSatelliteCertificate _ => .json
  | uploadRules rules => .text rules
  | _ => .nothing

/-- Whether the server is asked for plain text. -/
def isText : Operation α → Bool
  | listRules | uploadRules _ => true
  | _ => false

/-- The choices made for the request of an operation. -/
def settings (operation : Operation α) : List Request.Setting :=
  .accept operation.answer.accept ::
    match operation.body? with
    | some (body, type) => [.body body, .bodyType type]
    | none => []

theorem request_verify (operation : Operation α) : operation.request.verify = .ok () := by
  cases operation <;> rfl

/-- The choices made for an operation build its request. -/
theorem build_settings (operation : Operation α) :
    Request.build operation.method operation.route.path operation.settings = .ok operation.request := by
  have hs : Request.setAll { method := operation.method, path := operation.route.path } operation.settings =
      operation.request := by
    unfold settings request
    rcases operation.body? with _ | ⟨body, type⟩ <;> rfl
  unfold Request.build
  rw [hs]
  simp only [request_verify]

theorem request_accept (operation : Operation α) :
    operation.request.accept = if operation.isText then .text else .json := by
  cases operation <;> rfl

theorem request_bodyType (operation : Operation α) :
    operation.request.bodyType = operation.enclosure.mediaType? := by
  cases operation <;> rfl

/-- The body of a request is what goes along with the operation. -/
theorem request_body (operation : Operation α) :
    operation.enclosure.Fits operation.request.body operation.request.encodedBody := by
  cases operation <;> simp [enclosure, Enclosure.Fits, request, body?, Request.encodedBody]

end Operation

end EntitlementClient
