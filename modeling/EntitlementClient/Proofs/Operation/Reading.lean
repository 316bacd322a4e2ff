/-
How replies are read: what an operation makes of the text of a reply that tells of success. Most
operations decode a model, three look for less.
-/
import EntitlementClient.Operation
import EntitlementClient.Proofs.Http.Reply

namespace EntitlementClient

open EntitlementClient.Http EntitlementClient.Schema EntitlementClient.Text

variable {α : Type}

/-- The shapes of the models that replies hold, one by one or in lists. -/
inductive IsModel : {α : Type} → Shape α → Prop
  | owner : IsModel Owner.shape
  | user : IsModel User.shape
  | consumerType : IsModel ConsumerType.shape
  | consumer : IsModel Consumer.shape
  | pool : IsModel Pool.shape
  | entitlement : IsModel Entitlement.shape
  | entitlementCertificate : IsModel EntitlementCertificate.shape
  | certificateSerial : IsModel CertificateSerial.shape
  | product : IsModel Product.shape
  | productCertificate : IsModel ProductCertificate.shape
  | content : IsModel Content.shape
  | subscription : IsModel Subscription.shape
  | subscriptionToken : IsModel SubscriptionToken.shape
  | status : IsModel Status.shape
  | json : IsModel .json
  | list {α : Type} {shape : Shape α} (h : IsModel shape) : IsModel (.list shape)

/-- What it means that a result is the decoded text, or the error that names the path from which the
text came. -/
structure Decodes (shape : Shape α) (path text : String) (result : Except ClientError α) : Prop where
  ok : ∀ a, result = .ok a ↔ shape.decode text.toList = .ok a
  error : ∀ fault, shape.decode text.toList = .error fault →
    result = .error (.invalidJson path (fault.message text.toList))

/-- What it means that a result is what an operation makes of the text of a reply. -/
def Operation.Reads : {α : Type} → Operation α → String → Except ClientError α → Prop
  -- what a deletion is answered with does not matter
  | _, .deleteOwner _, _, result | _, .deleteConsumerType _, _, result | _, .unregister _, _, result
  | _, .deleteSubscription _, _, result | _, .deleteSubscriptionToken _, _, result
  | _, .unbindEntitlement _ _, _, result | _, .revokeAllEntitlements _, _, result => result = .ok ()
  | _, .listRules, text, result | _, .uploadRules _, text, result => result = .ok text
  | _, .refreshPools owner, text, result =>
    (result = .ok none ↔ isAllBlank text.toList = true) ∧
      (isAllBlank text.toList = false →
        ∃ decoded, Decodes .json (refreshPools owner).request.path text decoded ∧ result = decoded.map some)
  | _, operation, text, result => ∃ shape, IsModel shape ∧ Decodes shape operation.request.path text result

/-! ## Reading -/

theorem Http.Response.decodes (response : Response) (shape : Shape α) (path : String) :
    Decodes shape path response.body (response.decode shape path) := by
  unfold Response.decode
  rcases hd : shape.decode response.body.toList with fault | a
  · exact ⟨fun a => by simp [hd], fun fault' h => by rw [hd] at h; cases h; rfl⟩
  · exact ⟨fun a' => by simp [hd], fun fault' h => by rw [hd] at h; cases h⟩

theorem Operation.reads_refreshPools (owner : String) (response : Response) :
    (refreshPools owner).Reads response.body (response.decodeOption .json (refreshPools owner).request.path) := by
  unfold Response.decodeOption Response.isEmpty
  show (_ ↔ isAllBlank response.body.toList = true) ∧ _
  by_cases hb : isAllBlank response.body.toList = true
  · rw [if_pos hb]
    exact ⟨by simp [hb], fun h => by rw [hb] at h; cases h⟩
  · rw [if_neg hb]
    refine ⟨?_, fun _ => ⟨_, response.decodes .json _, rfl⟩⟩
    rcases response.decode .json (refreshPools owner).request.path with e | a <;> simp [Except.map, hb]

/-- An operation makes of a response what it is meant to make of it. -/
theorem Operation.reads (operation : Operation α) (response : Response) :
    operation.Reads response.body (operation.answer.read response operation.request.path) := by
  cases operation
  case deleteOwner | deleteConsumerType | unregister | deleteSubscription | deleteSubscriptionToken |
    unbindEntitlement | revokeAllEntitlements => rfl
  case listRules | uploadRules => rfl
  case refreshPools owner => exact reads_refreshPools owner response
  all_goals exact ⟨_, by repeat constructor, response.decodes _ _⟩

/-- Reading only fails on a text that cannot be decoded. -/
theorem Answer.read_error {answer : Answer α} {response : Response} {path : String} {e : ClientError}
    (h : answer.read response path = .error e) : ∃ message, e = .invalidJson path message := by
  have hd : ∀ {β : Type} {shape : Shape β}, response.decode shape path = .error e →
      ∃ message, e = .invalidJson path message := by
    intro β shape h
    unfold Response.decode at h
    rcases hs : shape.decode response.body.toList with fault | a
    · rw [hs] at h; cases h; exact ⟨_, rfl⟩
    · rw [hs] at h; cases h
  rcases answer with shape | shape | _ | _
  · exact hd h
  · simp only [read, Response.decodeOption] at h
    split at h
    · cases h
    · rcases hr : response.decode shape path with e' | a
      · rw [hr] at h; cases h; exact hd hr
      · rw [hr] at h; cases h
  · cases h
  · cases h

end EntitlementClient
