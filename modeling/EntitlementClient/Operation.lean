/-
Operations: what the server can be asked to do, each with its method, its route, its body and the
kind of its answer.
-/
import EntitlementClient.Http.Request
import EntitlementClient.Http.Response
import EntitlementClient.Model.Consumer
import EntitlementClient.Model.Entitlement
import EntitlementClient.Model.Product
import EntitlementClient.Model.Status
import EntitlementClient.Model.Subscription
import EntitlementClient.Route.Basic
import EntitlementClient.Schema.Encoder
import EntitlementClient.Text.Base64

namespace EntitlementClient

open EntitlementClient.Http EntitlementClient.Schema EntitlementClient.Text

/-! ## Answers -/

/-- How the body of a response is understood: as a JSON value, as a JSON value unless it is blank,
as it stands, or not at all. -/
inductive Answer : Type → Type 1
  | json {α : Type} (shape : Shape α) : Answer α
  | jsonUnlessBlank {α : Type} (shape : Shape α) : Answer (Option α)
  | text : Answer String
  | ignored : Answer Unit

namespace Answer

/-- What is read from a response from a path. -/
def read : {α : Type} → Answer α → Response → String → Except ClientError α
  | _, .json shape, response, path => response.decode shape path
  | _, .jsonUnlessBlank shape, response, path => response.decodeOption shape path
  | _, .text, response, _ => .ok response.body
  | _, .ignored, _, _ => .ok ()

/-- The written form of what has been read, if there is anything to write. -/
def render? : {α : Type} → Answer α → α → Option String
  | _, .json shape, a => some (shape.render a)
  | _, .jsonUnlessBlank shape, a => a.map shape.render
  | _, .text, a => some a
  | _, .ignored, _ => none

/-- The type of body that is asked for. -/
def accept {α : Type} : Answer α → MediaType
  | .text => .text
  | _ => .json

end Answer

/-! ## Operations -/

/-- An operation, with the type of what it gives. -/
inductive Operation : Type → Type
  | getOwners : Operation (List Owner)
  | getOwner (id : String) : Operation Owner
  | createOwner (name : String) : Operation Owner
  | deleteOwner (id : String) : Operation Unit
  | createUser (owner login password : String) : Operation User
  | getConsumerTypes : Operation (List ConsumerType)
  | getConsumerType (id : String) : Operation ConsumerType
  | createConsumerType (label : String) : Operation ConsumerType
  | deleteConsumerType (id : String) : Operation Unit
  | register (name : String) (type uuid : Option String) : Operation Consumer
  | getConsumer (id : String) : Operation Consumer
  | unregister (uuid : String) : Operation Unit
  | getPool (id : String) : Operation Pool
  | getPools (filter : PoolFilter) : Operation (List Pool)
  | createPool (pool : PoolRequest) : Operation Pool
  | refreshPools (owner : String) : Operation (Option Json)
  | getEntitlement (id : String) : Operation Entitlement
  | listProducts : Operation (List Product)
  | getProduct (id : String) : Operation Product
  | createProduct (product : NewProduct) : Operation Product
  | getProductCertificate (id : String) : Operation ProductCertificate
  | addContentToProduct (product content : String) (enabled : Bool) : Operation Product
  | listContent : Operation (List Content)
  | getContent (id : String) : Operation Content
  | createContent (content : NewContent) : Operation Content
  | getSubscriptions (owner : String) : Operation (List Subscription)
  | createSubscription (owner : String) (subscription : Subscription) : Operation Subscription
  | deleteSubscription (id : String) : Operation Unit
  | getSubscriptionTokens : Operation (List SubscriptionToken)
  | createSubscriptionToken (token : SubscriptionToken) : Operation SubscriptionToken
  | deleteSubscriptionToken (id : String) : Operation Unit
  | uploadSatelliteCertificate (certificate : List UInt8) : Operation Json
  | getStatus : Operation Status
  | listRules : Operation String
  | uploadRules (rules : String) : Operation String
  | consumePool (uuid pool : String) : Operation (List Entitlement)
  | consumeProduct (uuid product : String) (quantity : Option UInt32) :
    Operation (List Entitlement)
  | consumeToken (uuid token : String) : Operation (List Entitlement)
  | listEntitlements (uuid : String) (product : Option String) : Operation (List Entitlement)
  | unbindEntitlement (uuid id : String) : Operation Unit
  | revokeAllEntitlements (uuid : String) : Operation Unit
  | getCertificates (uuid : String) (serials : List UInt64) :
    Operation (List EntitlementCertificate)
  | getCertificateSerials (uuid : String) : Operation (List CertificateSerial)

namespace Operation

/-- What is done with the resource. -/
def method {α : Type} : Operation α → Method
  | .createOwner _ | .createUser _ _ _ | .createConsumerType _ | .register _ _ _ | .createPool _
  | .createProduct _ | .addContentToProduct _ _ _ | .createContent _ | .createSubscription _ _
  | .createSubscriptionToken _ | .uploadSatelliteCertificate _ | .uploadRules _
  | .consumePool _ _ | .consumeProduct _ _ _ | .consumeToken _ _ => .post
  | .refreshPools _ => .put
  | .deleteOwner _ | .deleteConsumerType _ | .unregister _ | .deleteSubscription _
  | .deleteSubscriptionToken _ | .unbindEntitlement _ _ | .revokeAllEntitlements _ => .delete
  | .getOwners | .getOwner _ | .getConsumerTypes | .getConsumerType _ | .getConsumer _
  | .getPool _ | .getPools _ | .getEntitlement _ | .listProducts | .getProduct _
  | .getProductCertificate _ | .listContent | .getContent _ | .getSubscriptions _
  | .getSubscriptionTokens | .getStatus | .listRules | .listEntitlements _ _
  | .getCertificates _ _ | .getCertificateSerials _ => .get

/-- The resource. -/
def route {α : Type} : Operation α → Route
  | .getOwners => .owners
  | .getOwner id => .owner id
  | .createOwner _ => .owners
  | .deleteOwner id => .owner id
  | .createUser owner _ _ => .ownerUsers owner
  | .getConsumerTypes => .consumerTypes
  | .getConsumerType id => .consumerType id
  | .createConsumerType _ => .consumerTypes
  | .deleteConsumerType id => .consumerType id
  | .register _ _ _ => .consumers
  | .getConsumer id => .consumer id
  | .unregister uuid => .consumer uuid
  | .getPool id => .pool id
  | .getPools filter => .pools filter
  | .createPool _ => .poolCollection
  | .refreshPools owner => .ownerSubscriptions owner
  | .getEntitlement id => .entitlement id
  | .listProducts => .products []
  | .getProduct id => .product id
  | .createProduct product => .products product.children
  | .getProductCertificate id => .productCertificate id
  | .addContentToProduct product content enabled => .productContent product content enabled
  | .listContent => .content
  | .getContent id => .contentItem id
  | .createContent _ => .content
  | .getSubscriptions owner => .ownerSubscriptions owner
  | .createSubscription owner _ => .ownerSubscriptions owner
  | .deleteSubscription id => .subscription id
  | .getSubscriptionTokens => .subscriptionTokens
  | .createSubscriptionToken _ => .subscriptionTokens
  | .deleteSubscriptionToken id => .subscriptionToken id
  | .uploadSatelliteCertificate _ => .certificates
  | .getStatus => .status
  | .listRules => .rules
  | .uploadRules _ => .rulesUpload
  | .consumePool uuid pool => .consumePool uuid pool
  | .consumeProduct uuid product quantity => .consumeProduct uuid product quantity
  | .consumeToken uuid token => .consumeToken uuid token
  | .listEntitlements uuid product => .listEntitlements uuid product
  | .unbindEntitlement uuid id => .consumerEntitlement uuid id
  | .revokeAllEntitlements uuid => .consumerEntitlements uuid
  | .getCertificates uuid serials => .consumerCertificates uuid serials
  | .getCertificateSerials uuid => .consumerCertificateSerials uuid

/-- The consumer that a registration asks for. -/
def newConsumer (name : String) (type uuid : Option String) : NewConsumer :=
  let consumer := NewConsumer.ofName name (type.getD NewConsumer.defaultType)
  match uuid with
  | some uuid => consumer.withUuid uuid
  | none => consumer

/-- The body with its type, for the operations that have one. -/
def body? {α : Type} : Operation α → Option (Json × MediaType)
  | .createOwner name => some (NewOwner.shape.document (.named name), .json)
  | .createUser _ login password => some (NewUser.shape.document ⟨login, password⟩, .json)
  | .createConsumerType label => some (NewConsumerType.shape.document ⟨label⟩, .json)
  | .register name type uuid =>
    some (NewConsumer.shape.document (newConsumer name type uuid), .json)
  | .createPool pool => some (PoolRequest.shape.document pool, .json)
  | .createProduct product => some (Product.shape.document product.toProduct, .json)
  | .createContent content => some (NewContent.shape.document content, .json)
  | .createSubscription _ subscription =>
    some (Subscription.shape.document subscription, .json)
  | .createSubscriptionToken token => some (SubscriptionToken.shape.document token, .json)
  | .uploadSatelliteCertificate certificate =>
    some (.text (String.ofList (Base64.encode certificate)), .json)
  | .uploadRules rules => some (.text rules, .text)
  | _ => none

/-- How the response is understood. -/
def answer : {α : Type} → Operation α → Answer α
  | _, .getOwners => .json (.list Owner.shape)
  | _, .getOwner _ => .json Owner.shape
  | _, .createOwner _ => .json Owner.shape
  | _, .deleteOwner _ => .ignored
  | _, .createUser _ _ _ => .json User.shape
  | _, .getConsumerTypes => .json (.list ConsumerType.shape)
  | _, .getConsumerType _ => .json ConsumerType.shape
  | _, .createConsumerType _ => .json ConsumerType.shape
  | _, .deleteConsumerType _ => .ignored
  | _, .register _ _ _ => .json Consumer.shape
  | _, .getConsumer _ => .json Consumer.shape
  | _, .unregister _ => .ignored
  | _, .getPool _ => .json Pool.shape
  | _, .getPools _ => .json (.list Pool.shape)
  | _, .createPool _ => .json Pool.shape
  | _, .refreshPools _ => .jsonUnlessBlank .json
  | _, .getEntitlement _ => .json Entitlement.shape
  | _, .listProducts => .json (.list Product.shape)
  | _, .getProduct _ => .json Product.shape
  | _, .createProduct _ => .json Product.shape
  | _, .getProductCertificate _ => .json ProductCertificate.shape
  | _, .addContentToProduct _ _ _ => .json Product.shape
  | _, .listContent => .json (.list Content.shape)
  | _, .getContent _ => .json Content.shape
  | _, .createContent _ => .json Content.shape
  | _, .getSubscriptions _ => .json (.list Subscription.shape)
  | _, .createSubscription _ _ => .json Subscription.shape
  | _, .deleteSubscription _ => .ignored
  | _, .getSubscriptionTokens => .json (.list SubscriptionToken.shape)
  | _, .createSubscriptionToken _ => .json SubscriptionToken.shape
  | _, .deleteSubscriptionToken _ => .ignored
  | _, .uploadSatelliteCertificate _ => .json .json
  | _, .getStatus => .json Status.shape
  | _, .listRules => .text
  | _, .uploadRules _ => .text
  | _, .consumePool _ _ => .json (.list Entitlement.shape)
  | _, .consumeProduct _ _ _ => .json (.list Entitlement.shape)
  | _, .consumeToken _ _ => .json (.list Entitlement.shape)
  | _, .listEntitlements _ _ => .json (.list Entitlement.shape)
  | _, .unbindEntitlement _ _ => .ignored
  | _, .revokeAllEntitlements _ => .ignored
  | _, .getCertificates _ _ => .json (.list EntitlementCertificate.shape)
  | _, .getCertificateSerials _ => .json (.list CertificateSerial.shape)

/-- The request for an operation. -/
def request {α : Type} (operation : Operation α) : Request :=
  { method := operation.method
    path := operation.route.path
    body := operation.body?.map (·.1)
    bodyType := operation.body?.map (·.2)
    accept := operation.answer.accept }

end Operation

/-! ## Operations of one consumer -/

/-- An operation that a consumer does for itself. -/
inductive ConsumerOperation : Type → Type
  | consumePool (pool : String) : ConsumerOperation (List Entitlement)
  | consumeProduct (product : String) (quantity : Option UInt32) :
    ConsumerOperation (List Entitlement)
  | consumeToken (token : String) : ConsumerOperation (List Entitlement)
  | listEntitlements (product : Option String) : ConsumerOperation (List Entitlement)
  | unbindEntitlement (id : String) : ConsumerOperation Unit
  | revokeAllEntitlements : ConsumerOperation Unit
  | getCertificates (serials : List UInt64) : ConsumerOperation (List EntitlementCertificate)
  | getCertificateSerials : ConsumerOperation (List CertificateSerial)
  | unregister : ConsumerOperation Unit

/-- The operation for the consumer with a uuid. -/
def ConsumerOperation.of (uuid : String) : {α : Type} → ConsumerOperation α → Operation α
  | _, .consumePool pool => .consumePool uuid pool
  | _, .consumeProduct product quantity => .consumeProduct uuid product quantity
  | _, .consumeToken token => .consumeToken uuid token
  | _, .listEntitlements product => .listEntitlements uuid product
  | _, .unbindEntitlement id => .unbindEntitlement uuid id
  | _, .revokeAllEntitlements => .revokeAllEntitlements uuid
  | _, .getCertificates serials => .getCertificates uuid serials
  | _, .getCertificateSerials => .getCertificateSerials uuid
  | _, .unregister => .unregister uuid

end EntitlementClient
