/-
All models that are written as JSON and read from it, as one type: what is said of a schema is said of
every one of them.
-/
import EntitlementClient.Model.Consumer
import EntitlementClient.Model.Entitlement
import EntitlementClient.Model.Status
import EntitlementClient.Model.Subscription
import EntitlementClient.Proofs.Schema.RoundTrip

namespace EntitlementClient

open EntitlementClient.Json EntitlementClient.Schema

/-- The models. -/
inductive Model
  | certificateSerial
  | consumer
  | consumerType
  | consumerTypeRef
  | content
  | entitlement
  | entitlementCertificate
  | newConsumer
  | newConsumerType
  | newContent
  | newOwner
  | newUser
  | owner
  | ownerRef
  | pool
  | poolRequest
  | product
  | productAttribute
  | productCertificate
  | productContent
  | productRef
  | status
  | subscription
  | subscriptionRef
  | subscriptionToken
  | user

namespace Model

/-- The values of a model. -/
def Value : Model → Type
  | certificateSerial => CertificateSerial
  | consumer => Consumer
  | consumerType => ConsumerType
  | consumerTypeRef => ConsumerTypeRef
  | content => Content
  | entitlement => Entitlement
  | entitlementCertificate => EntitlementCertificate
  | newConsumer => NewConsumer
  | newConsumerType => NewConsumerType
  | newContent => NewContent
  | newOwner => NewOwner
  | newUser => NewUser
  | owner => Owner
  | ownerRef => OwnerRef
  | pool => Pool
  | poolRequest => PoolRequest
  | product => Product
  | productAttribute => ProductAttribute
  | productCertificate => ProductCertificate
  | productContent => ProductContent
  | productRef => ProductRef
  | status => Status
  | subscription => Subscription
  | subscriptionRef => SubscriptionRef
  | subscriptionToken => SubscriptionToken
  | user => User

/-- How the values of a model are laid out in JSON. -/
def shape : (model : Model) → Shape model.Value
  | certificateSerial => CertificateSerial.shape
  | consumer => Consumer.shape
  | consumerType => ConsumerType.shape
  | consumerTypeRef => ConsumerTypeRef.shape
  | content => Content.shape
  | entitlement => Entitlement.shape
  | entitlementCertificate => EntitlementCertificate.shape
  | newConsumer => NewConsumer.shape
  | newConsumerType => NewConsumerType.shape
  | newContent => NewContent.shape
  | newOwner => NewOwner.shape
  | newUser => NewUser.shape
  | owner => Owner.shape
  | ownerRef => OwnerRef.shape
  | pool => Pool.shape
  | poolRequest => PoolRequest.shape
  | product => Product.shape
  | productAttribute => ProductAttribute.shape
  | productCertificate => ProductCertificate.shape
  | productContent => ProductContent.shape
  | productRef => ProductRef.shape
  | status => Status.shape
  | subscription => Subscription.shape
  | subscriptionRef => SubscriptionRef.shape
  | subscriptionToken => SubscriptionToken.shape
  | user => User.shape

theorem lawful (model : Model) : model.shape.Lawful := by
  cases model <;>
    simp [shape, Shape.Lawful, Fields.Lawful, Field.Lawful, Shape.Proper, Shape.encode, integral, itemsIntegral,
      membersIntegral, Fields.wireNames, Field.name, FieldName.plain, FieldName.labelled, FieldName.secret,
      Default.emptyList, Default.shownList, Default.emptyMap, NameMap.empty, CertificateSerial.shape, Consumer.shape,
      ConsumerType.shape, ConsumerTypeRef.shape, Content.shape, Entitlement.shape, EntitlementCertificate.shape,
      NewConsumer.shape, NewConsumerType.shape, NewContent.shape, NewOwner.shape, NewUser.shape, Owner.shape,
      OwnerRef.shape, Pool.shape, PoolRequest.shape, Product.shape, ProductAttribute.shape, ProductCertificate.shape,
      ProductContent.shape, ProductRef.shape, Status.shape, Subscription.shape, SubscriptionRef.shape,
      SubscriptionToken.shape, User.shape]

theorem height_le (model : Model) : model.shape.height ≤ depthLimit := by
  cases model <;> decide

/-- Every value of every model that is in normal form comes back from its text, and from the text that
is posted for it; and whatever body is decoded as a model, its value is in normal form if the numbers
of the value, or those of the body, are integers. -/
theorem wire_round_trip (model : Model) :
    (∀ v : model.Value, model.shape.Normal v →
        model.shape.decode (model.shape.render v).toList = .ok v ∧
          model.shape.decode (model.shape.document v).render.toList = .ok v) ∧
      ∀ (body : String) (v : model.Value), model.shape.decode body.toList = .ok v →
        ((model.shape.encode v).integral = true → model.shape.Normal v) ∧
          ∀ json, Shape.json.decode body.toList = .ok json → json.integral = true → model.shape.Normal v := by
  refine ⟨fun v normal => ⟨normal.decode_render model.lawful, normal.decode_document model.lawful⟩,
    fun body v decoded => ⟨fun integral => ?_, fun json read integral => ?_⟩⟩
  · exact .of_decode model.lawful model.height_le decoded integral
  · exact .of_decode_integral model.lawful model.height_le read integral decoded

/-- A pool that starts before the year one and ends in a year of six digits is sent and read back. -/
theorem wire_round_trip_poolRequest :
    ∃ pool : PoolRequest, pool.startDate.year = -44 ∧ pool.endDate.year = 123456 ∧ PoolRequest.shape.Normal pool ∧
      PoolRequest.shape.decode (PoolRequest.shape.render pool).toList = .ok pool ∧
      PoolRequest.shape.decode (PoolRequest.shape.document pool).render.toList = .ok pool := by
  have normal : PoolRequest.shape.Normal
      ⟨false, "s \"1\"", -1, 0, ⟨-44, 3, 15, by decide⟩, ⟨123456, 12, 31, by decide⟩, "p", ⟨"acme"⟩⟩ :=
    ⟨⟨trivial, trivial, trivial, trivial, trivial, trivial, trivial, ⟨trivial, trivial⟩, trivial⟩, rfl, by decide⟩
  have sent := (wire_round_trip poolRequest).1 _ normal
  have read : Shape.json.decode (PoolRequest.shape.render _).toList = .ok (PoolRequest.shape.document _) :=
    Shape.decode_write normal.integral normal.depth_le rfl
  have again := ((wire_round_trip poolRequest).2 _ _ sent.1).2 _ read (integral_sorted normal.integral)
  exact ⟨_, rfl, rfl, again, sent⟩

end Model

end EntitlementClient
