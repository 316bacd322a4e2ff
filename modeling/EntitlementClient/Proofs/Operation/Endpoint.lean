/-
Endpoints: an operation without what it sends along, that is, with the arguments that stand in its
path and its query alone; and the table of the endpoints' methods and paths. The request of an
operation has the method and the path of its row.
-/
import EntitlementClient.Operation
import EntitlementClient.Proofs.Text.Percent

namespace EntitlementClient

open EntitlementClient.Http EntitlementClient.Text

/-- An operation by the arguments that stand in its path and its query. -/
inductive Endpoint
  | getOwners
  | getOwner (id : String)
  | createOwner
  | deleteOwner (id : String)
  | createUser (owner : String)
  | getConsumerTypes
  | getConsumerType (id : String)
  | createConsumerType
  | deleteConsumerType (id : String)
  | register
  | getConsumer (id : String)
  | unregister (uuid : String)
  | getPool (id : String)
  | getPools (filter : PoolFilter)
  | createPool
  | refreshPools (owner : String)
  | consumePool (uuid pool : String)
  | consumeProduct (uuid product : String) (quantity : Option UInt32)
  | consumeToken (uuid token : String)
  | listEntitlements (uuid : String) (product : Option String)
  | unbindEntitlement (uuid id : String)
  | revokeAllEntitlements (uuid : String)
  | getEntitlement (id : String)
  | getCertificates (uuid : String) (serials : List UInt64)
  | getCertificateSerials (uuid : String)
  | listProducts
  | getProduct (id : String)
  | createProduct (children : List String)
  | getProductCertificate (id : String)
  | addContentToProduct (product content : String) (enabled : Bool)
  | listContent
  | getContent (id : String)
  | createContent
  | getSubscriptions (owner : String)
  | createSubscription (owner : String)
  | deleteSubscription (id : String)
  | getSubscriptionTokens
  | createSubscriptionToken
  | deleteSubscriptionToken (id : String)
  | uploadSatelliteCertificate
  | getStatus
  | listRules
  | uploadRules
deriving DecidableEq

/-- The endpoint of an operation. -/
def Operation.endpoint {α : Type} : Operation α → Endpoint
  | .getOwners => .getOwners
  | .getOwner id => .getOwner id
  | .createOwner _ => .createOwner
  | .deleteOwner id => .deleteOwner id
  | .createUser owner _ _ => .createUser owner
  | .getConsumerTypes => .getConsumerTypes
  | .getConsumerType id => .getConsumerType id
  | .createConsumerType _ => .createConsumerType
  | .deleteConsumerType id => .deleteConsumerType id
  | .register _ _ _ => .register
  | .getConsumer id => .getConsumer id
  | .unregister uuid => .unregister uuid
  | .getPool id => .getPool id
  | .getPools filter => .getPools filter
  | .createPool _ => .createPool
  | .refreshPools owner => .refreshPools owner
  | .consumePool uuid pool => .consumePool uuid pool
  | .consumeProduct uuid product quantity => .consumeProduct uuid product quantity
  | .consumeToken uuid token => .consumeToken uuid token
  | .listEntitlements uuid product => .listEntitlements uuid product
  | .unbindEntitlement uuid id => .unbindEntitlement uuid id
  | .revokeAllEntitlements uuid => .revokeAllEntitlements uuid
  | .getEntitlement id => .getEntitlement id
  | .getCertificates uuid serials => .getCertificates uuid serials
  | .getCertificateSerials uuid => .getCertificateSerials uuid
  | .listProducts => .listProducts
  | .getProduct id => .getProduct id
  | .createProduct product => .createProduct product.children
  | .getProductCertificate id => .getProductCertificate id
  | .addContentToProduct product content enabled => .addContentToProduct product content enabled
  | .listContent => .listContent
  | .getContent id => .getContent id
  | .createContent _ => .createContent
  | .getSubscriptions owner => .getSubscriptions owner
  | .createSubscription owner _ => .createSubscription owner
  | .deleteSubscription id => .deleteSubscription id
  | .getSubscriptionTokens => .getSubscriptionTokens
  | .createSubscriptionToken _ => .createSubscriptionToken
  | .deleteSubscriptionToken id => .deleteSubscriptionToken id
  | .uploadSatelliteCertificate _ => .uploadSatelliteCertificate
  | .getStatus => .getStatus
  | .listRules => .listRules
  | .uploadRules _ => .uploadRules

/-! ## The table -/

namespace Endpoint

/-- An argument as it stands in a path or a query. -/
def enc (s : String) : String :=
  String.ofList (Percent.encode s)

/-- A parameter that is left out unless it has a value, with the separator after it. -/
def pair (name : String) : Option String → String
  | some value => name ++ "=" ++ enc value ++ "&"
  | none => ""

/-- The method and the path of an endpoint. -/
def line : Endpoint → Method × String
  | getOwners => (.get, "/owners")
  | getOwner id => (.get, "/owners/" ++ enc id)
  | createOwner => (.post, "/owners")
  | deleteOwner id => (.delete, "/owners/" ++ enc id)
  | createUser owner => (.post, "/owners/" ++ enc owner ++ "/users")
  | getConsumerTypes => (.get, "/consumertypes")
  | getConsumerType id => (.get, "/consumertypes/" ++ enc id)
  | createConsumerType => (.post, "/consumertypes")
  | deleteConsumerType id => (.delete, "/consumertypes/" ++ enc id)
  | register => (.post, "/consumers")
  | getConsumer id => (.get, "/consumers/" ++ enc id)
  | unregister uuid => (.delete, "/consumers/" ++ enc uuid)
  | getPool id => (.get, "/pools/" ++ enc id)
  | getPools filter =>
    (.get, "/pools?" ++ pair "consumer" filter.consumer ++ pair "owner" filter.owner ++
      pair "product" filter.product ++ (if filter.listAll then "listall=true&" else ""))
  | createPool => (.post, "/pools")
  | refreshPools owner => (.put, "/owners/" ++ enc owner ++ "/subscriptions")
  | consumePool uuid pool => (.post, "/consumers/" ++ enc uuid ++ "/entitlements?pool=" ++ enc pool)
  | consumeProduct uuid product quantity =>
    (.post, "/consumers/" ++ enc uuid ++ "/entitlements?product=" ++ enc product ++
      match quantity with
      | some n => "&quantity=" ++ toString n.toNat
      | none => "")
  | consumeToken uuid token => (.post, "/consumers/" ++ enc uuid ++ "/entitlements?token=" ++ enc token)
  | listEntitlements uuid product =>
    (.get, "/consumers/" ++ enc uuid ++ "/entitlements" ++
      match product with
      | some id => "?product=" ++ enc id
      | none => "")
  | unbindEntitlement uuid id => (.delete, "/consumers/" ++ enc uuid ++ "/entitlements/" ++ enc id)
  | revokeAllEntitlements uuid => (.delete, "/consumers/" ++ enc uuid ++ "/entitlements")
  | getEntitlement id => (.get, "/entitlements/" ++ enc id)
  | getCertificates uuid serials =>
    (.get, "/consumers/" ++ enc uuid ++ "/certificates" ++
      match serials with
      | [] => ""
      | serials => "?serials=" ++ String.intercalate "," (serials.map fun n => toString n.toNat))
  | getCertificateSerials uuid => (.get, "/consumers/" ++ enc uuid ++ "/certificates/serials")
  | listProducts => (.get, "/products")
  | getProduct id => (.get, "/products/" ++ enc id)
  | createProduct children =>
    (.post, "/products" ++
      match children with
      | [] => ""
      | children => "?" ++ String.intercalate "&" (children.map fun id => "childId=" ++ enc id))
  | getProductCertificate id => (.get, "/products/" ++ enc id ++ "/certificate")
  | addContentToProduct product content enabled =>
    (.post, "/products/" ++ enc product ++ "/content/" ++ enc content ++ "?enabled=" ++
      if enabled then "true" else "false")
  | listContent => (.get, "/content")
  | getContent id => (.get, "/content/id/" ++ enc id)
  | createContent => (.post, "/content")
  | getSubscriptions owner => (.get, "/owners/" ++ enc owner ++ "/subscriptions")
  | createSubscription owner => (.post, "/owners/" ++ enc owner ++ "/subscriptions")
  | deleteSubscription id => (.delete, "/subscriptions/" ++ enc id)
  | getSubscriptionTokens => (.get, "/subscriptiontokens")
  | createSubscriptionToken => (.post, "/subscriptiontokens")
  | deleteSubscriptionToken id => (.delete, "/subscriptiontokens/" ++ enc id)
  | uploadSatelliteCertificate => (.post, "/certificates")
  | getStatus => (.get, "/status/")
  | listRules => (.get, "/rules")
  | uploadRules => (.post, "/rules/")

end Endpoint

/-! ## Written forms of queries -/

@[simp] theorem Parameter.text_single (name value : String) :
    (Parameter.single name value).text = Percent.encode name ++ '=' :: Percent.encode value := by
  simp [Parameter.single, Parameter.text]

@[simp] theorem Query.text_of (parameters : List Parameter) :
    (Query.of parameters).text = List.intercalate ['&'] (parameters.map Parameter.text) := rfl

@[simp] theorem Query.text_after (parameters : List Parameter) :
    (⟨parameters, .after⟩ : Query).text = parameters.flatMap fun p => p.text ++ ['&'] := rfl

@[simp] theorem Endpoint.toList_enc (s : String) : (Endpoint.enc s).toList = Percent.encode s :=
  String.toList_ofList

/-- The parameters of a filter one by one. -/
theorem PoolFilter.parameters_eq (filter : PoolFilter) : filter.parameters =
    (filter.consumer.map (.single "consumer")).toList ++ ((filter.owner.map (.single "owner")).toList ++
      ((filter.product.map (.single "product")).toList ++
        if filter.listAll then [.single "listall" "true"] else [])) := by
  obtain ⟨consumer, owner, product, listAll⟩ := filter
  cases consumer <;> cases owner <;> cases product <;> cases listAll <;> rfl

/-- A parameter of a filter is written with the separator after it, if it is written at all. -/
theorem Endpoint.toList_pair {name : String} (h : name.toList.all Percent.isPlain = true) (value : Option String) :
    (Endpoint.pair name value).toList =
      (value.map (Parameter.single name)).toList.flatMap fun p => p.text ++ ['&'] := by
  rcases value with _ | value
  · rfl
  · simp [Endpoint.pair, Percent.encode_of_plain h]

/-! ## Paths of routes -/

namespace Route

open Endpoint

theorem toList_path (route : Route) : route.path.toList = route.address.text :=
  String.toList_ofList

/-- The written path and the written query of a route. -/
theorem toList_path_eq (route : Route) : route.path.toList =
    (route.address.segments.flatMap fun segment => '/' :: Percent.encode segment) ++
      match route.address.query with
      | some query => '?' :: query.text
      | none => [] :=
  route.toList_path

theorem path_pools (filter : PoolFilter) : (pools filter).path =
    "/pools?" ++ pair "consumer" filter.consumer ++ pair "owner" filter.owner ++ pair "product" filter.product ++
      (if filter.listAll then "listall=true&" else "") := by
  rw [← String.toList_inj, toList_path_eq]
  show ('/' :: Percent.encode "pools") ++ [] ++ '?' :: (⟨filter.parameters, .after⟩ : Query).text = _
  rw [PoolFilter.parameters_eq, Query.text_after]
  simp only [String.toList_append, toList_pair (show "consumer".toList.all Percent.isPlain = true by decide),
    toList_pair (show "owner".toList.all Percent.isPlain = true by decide),
    toList_pair (show "product".toList.all Percent.isPlain = true by decide), List.flatMap_append]
  cases filter.listAll <;> simp (disch := decide) [Percent.encode_of_plain]

theorem path_consumeProduct (uuid product : String) (quantity : Option UInt32) :
    (consumeProduct uuid product quantity).path =
    "/consumers/" ++ enc uuid ++ "/entitlements?product=" ++ enc product ++
      match quantity with
      | some n => "&quantity=" ++ toString n.toNat
      | none => "" := by
  rw [← String.toList_inj, toList_path_eq]
  rcases quantity with _ | n <;> simp (disch := decide) [address, Percent.encode_of_plain]

theorem path_listEntitlements (uuid : String) (product : Option String) : (listEntitlements uuid product).path =
    "/consumers/" ++ enc uuid ++ "/entitlements" ++
      match product with
      | some id => "?product=" ++ enc id
      | none => "" := by
  rw [← String.toList_inj, toList_path_eq]
  rcases product with _ | id <;> simp (disch := decide) [address, Query.ofNonempty?, Percent.encode_of_plain]

theorem path_consumerCertificates (uuid : String) (serials : List UInt64) : (consumerCertificates uuid serials).path =
    "/consumers/" ++ enc uuid ++ "/certificates" ++
      match serials with
      | [] => ""
      | serials => "?serials=" ++ String.intercalate "," (serials.map fun n => toString n.toNat) := by
  rw [← String.toList_inj, toList_path_eq]
  rcases serials with _ | ⟨serial, serials⟩ <;>
    simp (disch := decide) [address, Function.comp_def, Percent.encode_of_plain, Parameter.text]

theorem path_products (children : List String) : (products children).path =
    "/products" ++
      match children with
      | [] => ""
      | children => "?" ++ String.intercalate "&" (children.map fun id => "childId=" ++ enc id) := by
  rw [← String.toList_inj, toList_path_eq]
  rcases children with _ | ⟨child, children⟩ <;>
    simp (disch := decide) [address, Function.comp_def, Query.ofNonempty?, Percent.encode_of_plain]

theorem path_productContent (product content : String) (enabled : Bool) :
    (productContent product content enabled).path =
    "/products/" ++ enc product ++ "/content/" ++ enc content ++ "?enabled=" ++
      if enabled then "true" else "false" := by
  rw [← String.toList_inj, toList_path_eq]
  cases enabled <;> simp (disch := decide) [address, flagWord, Percent.encode_of_plain]

end Route

/-! ## Rows -/

/-- The request of an operation has the method and the path of its row in the table. -/
theorem Operation.request_line {α : Type} (operation : Operation α) :
    (operation.request.method, operation.request.path) = operation.endpoint.line := by
  refine Prod.ext (by cases operation <;> rfl) ?_
  show operation.route.path = _
  cases operation
  case getPools filter => exact Route.path_pools filter
  case consumeProduct uuid product quantity => exact Route.path_consumeProduct uuid product quantity
  case listEntitlements uuid product => exact Route.path_listEntitlements uuid product
  case getCertificates uuid serials => exact Route.path_consumerCertificates uuid serials
  case listProducts => exact Route.path_products []
  case createProduct product => exact Route.path_products product.children
  case addContentToProduct product content enabled => exact Route.path_productContent product content enabled
  -- the words of a path are their own written forms, which settles the rows without a choice
  all_goals
    rw [← String.toList_inj, Route.toList_path_eq]
    simp (disch := decide) [Operation.route, Route.address, Operation.endpoint, Endpoint.line, Percent.encode_of_plain]

end EntitlementClient
