/-
The request line tells the endpoint: from a method and a path one reader finds the operation and all
the arguments in the path and the query.
-/
import EntitlementClient.Proofs.Operation.Endpoint
import EntitlementClient.Proofs.Route.Reading

namespace EntitlementClient

open EntitlementClient.Http

variable {α : Type}

namespace PoolFilter

/-- The value of the first parameter with a name. -/
def value? (parameters : List Parameter) (name : String) : Option String :=
  (parameters.find? fun p => p.name == name).bind fun p => p.values.head?

/-- The filter of the parameters of a query. -/
def ofParameters (parameters : List Parameter) : PoolFilter where
  consumer := value? parameters "consumer"
  owner := value? parameters "owner"
  product := value? parameters "product"
  listAll := (value? parameters "listall").isSome

theorem ofParameters_parameters (filter : PoolFilter) : ofParameters filter.parameters = filter := by
  obtain ⟨consumer, owner, product, listAll⟩ := filter
  cases consumer <;> cases owner <;> cases product <;> cases listAll <;> rfl

end PoolFilter

namespace Endpoint

/-! ## The reader -/

/-- The number of a numeral. -/
def number (s : String) : Nat :=
  Nat.ofDigitChars 10 s.toList 0

@[simp] theorem number_repr (n : Nat) : number n.repr = n := by
  unfold number
  rw [Nat.toList_repr, Nat.ofDigitChars_ten_toDigits]

/-- The endpoint from which something is fetched. -/
def ofGet? : List String → Option (List Parameter) → Option Endpoint
  | ["owners"], none => some getOwners
  | ["owners", id], none => some (getOwner id)
  | ["owners", id, "subscriptions"], none => some (getSubscriptions id)
  | ["consumertypes"], none => some getConsumerTypes
  | ["consumertypes", id], none => some (getConsumerType id)
  | ["consumers", id], none => some (getConsumer id)
  | ["consumers", uuid, "entitlements"], none => some (listEntitlements uuid none)
  | ["consumers", uuid, "entitlements"], some [⟨"product", [id]⟩] => some (listEntitlements uuid (some id))
  | ["consumers", uuid, "certificates"], none => some (getCertificates uuid [])
  | ["consumers", uuid, "certificates"], some [⟨"serials", serials⟩] =>
    some (getCertificates uuid (serials.map fun s => UInt64.ofNat (number s)))
  | ["consumers", uuid, "certificates", "serials"], none => some (getCertificateSerials uuid)
  | ["pools"], some parameters => some (getPools (.ofParameters parameters))
  | ["pools", id], none => some (getPool id)
  | ["entitlements", id], none => some (getEntitlement id)
  | ["products"], none => some listProducts
  | ["products", id], none => some (getProduct id)
  | ["products", id, "certificate"], none => some (getProductCertificate id)
  | ["content"], none => some listContent
  | ["content", "id", id], none => some (getContent id)
  | ["subscriptiontokens"], none => some getSubscriptionTokens
  | ["status", ""], none => some getStatus
  | ["rules"], none => some listRules
  | _, _ => none

/-- The endpoint to which something is sent. -/
def ofPost? : List String → Option (List Parameter) → Option Endpoint
  | ["owners"], none => some createOwner
  | ["owners", id, "users"], none => some (createUser id)
  | ["owners", id, "subscriptions"], none => some (createSubscription id)
  | ["consumertypes"], none => some createConsumerType
  | ["consumers"], none => some register
  | ["consumers", uuid, "entitlements"], some [⟨"pool", [pool]⟩] => some (consumePool uuid pool)
  | ["consumers", uuid, "entitlements"], some [⟨"product", [product]⟩] => some (consumeProduct uuid product none)
  | ["consumers", uuid, "entitlements"], some [⟨"product", [product]⟩, ⟨"quantity", [quantity]⟩] =>
    some (consumeProduct uuid product (some (UInt32.ofNat (number quantity))))
  | ["consumers", uuid, "entitlements"], some [⟨"token", [token]⟩] => some (consumeToken uuid token)
  | ["pools"], none => some createPool
  | ["products"], none => some (createProduct [])
  | ["products"], some children => some (createProduct (children.map fun p => p.values.headD ""))
  | ["products", product, "content", content], some [⟨"enabled", [enabled]⟩] =>
    some (addContentToProduct product content (enabled == "true"))
  | ["content"], none => some createContent
  | ["subscriptiontokens"], none => some createSubscriptionToken
  | ["certificates"], none => some uploadSatelliteCertificate
  | ["rules", ""], none => some uploadRules
  | _, _ => none

/-- The endpoint at which something is deleted. -/
def ofDelete? : List String → Option Endpoint
  | ["owners", id] => some (deleteOwner id)
  | ["consumertypes", id] => some (deleteConsumerType id)
  | ["consumers", uuid] => some (unregister uuid)
  | ["consumers", uuid, "entitlements"] => some (revokeAllEntitlements uuid)
  | ["consumers", uuid, "entitlements", id] => some (unbindEntitlement uuid id)
  | ["subscriptions", id] => some (deleteSubscription id)
  | ["subscriptiontokens", id] => some (deleteSubscriptionToken id)
  | _ => none

/-- The endpoint at which something is put in place. -/
def ofPut? : List String → Option Endpoint
  | ["owners", id, "subscriptions"] => some (refreshPools id)
  | _ => none

/-- The endpoint of a method, the segments of a path and the parameters of a query. -/
def ofParts? : Method → List String → Option (List Parameter) → Option Endpoint
  | .get, segments, parameters => ofGet? segments parameters
  | .post, segments, parameters => ofPost? segments parameters
  | .put, segments, _ => ofPut? segments
  | .delete, segments, _ => ofDelete? segments

/-- The endpoint of a method and a path. -/
def ofLine? (method : Method) (path : String) : Option Endpoint :=
  (Address.read? path.toList).bind fun parts => ofParts? method parts.1 parts.2

end Endpoint

/-! ## Addresses of operations -/

theorem Parameter.single_values_ne_nil (name value : String) : (single name value).values ≠ [] :=
  List.cons_ne_nil value []

/-- Every parameter of a route has a value. -/
theorem Route.values_ne_nil (route : Route) :
    ∀ query ∈ route.address.query, ∀ p ∈ query.parameters, p.values ≠ [] := by
  intro query hq p hp
  cases route
  case pools filter =>
    cases hq
    obtain ⟨⟨name, value⟩, -, hv⟩ := List.mem_filterMap.1 hp
    obtain ⟨value, -, rfl⟩ := Option.map_eq_some_iff.1 hv
    exact Parameter.single_values_ne_nil name value
  case consumePool | consumeToken | productContent =>
    cases hq
    rw [List.mem_singleton.1 hp]
    exact Parameter.single_values_ne_nil _ _
  case consumeProduct uuid product quantity =>
    cases hq
    rcases List.mem_cons.1 hp with rfl | hp
    · exact Parameter.single_values_ne_nil _ _
    · obtain ⟨n, -, rfl⟩ := Option.map_eq_some_iff.1 (Option.mem_toList.1 hp)
      exact Parameter.single_values_ne_nil _ _
  case listEntitlements uuid product =>
    rcases product with _ | id
    · cases hq
    · cases hq
      rw [List.mem_singleton.1 hp]
      exact Parameter.single_values_ne_nil _ _
  case consumerCertificates uuid serials =>
    rcases serials with _ | ⟨serial, serials⟩
    · cases hq
    · cases hq
      rw [List.mem_singleton.1 hp]
      exact List.cons_ne_nil _ _
  case products children =>
    rcases children with _ | ⟨child, children⟩
    · cases hq
    · cases hq
      obtain ⟨id, -, rfl⟩ := List.mem_map.1 hp
      exact Parameter.single_values_ne_nil _ _
  all_goals cases hq

theorem Endpoint.map_number (serials : List UInt64) :
    (serials.map fun n => toString n.toNat).map (fun s => UInt64.ofNat (number s)) = serials := by
  simp [Function.comp_def]

theorem Endpoint.map_value (name : String) (values : List String) :
    (values.map (Parameter.single name)).map (fun p => p.values.headD "") = values := by
  simp [Parameter.single, Function.comp_def]

/-- The endpoint of an operation is found from the parts of its address. -/
theorem Operation.ofParts?_address (operation : Operation α) :
    Endpoint.ofParts? operation.method operation.route.address.segments
      (operation.route.address.query.map (·.parameters)) = some operation.endpoint := by
  cases operation
  case getPools filter => exact congrArg (some <| Endpoint.getPools ·) (PoolFilter.ofParameters_parameters filter)
  case consumeProduct uuid product quantity =>
    rcases quantity with _ | n
    · rfl
    · show some (Endpoint.consumeProduct uuid product (some (UInt32.ofNat (Endpoint.number n.toNat.repr)))) = _
      rw [Endpoint.number_repr, UInt32.ofNat_toNat]
      rfl
  case listEntitlements uuid product => rcases product with _ | id <;> rfl
  case getCertificates uuid serials =>
    rcases serials with _ | ⟨serial, serials⟩
    · rfl
    · exact congrArg (some <| Endpoint.getCertificates uuid ·) (Endpoint.map_number (serial :: serials))
  case createProduct product =>
    show Endpoint.ofPost? ["products"] ((Query.ofNonempty? (product.children.map (.single "childId"))).map _) =
      some (Endpoint.createProduct product.children)
    rcases product.children with _ | ⟨child, children⟩
    · rfl
    · exact congrArg (some <| Endpoint.createProduct ·) (Endpoint.map_value "childId" (child :: children))
  case addContentToProduct product content enabled => cases enabled <;> rfl
  all_goals rfl

/-- The endpoint of an operation is found from the method and the path of its request. -/
theorem Operation.ofLine?_request (operation : Operation α) :
    Endpoint.ofLine? operation.request.method operation.request.path = some operation.endpoint := by
  show (Address.read? operation.route.path.toList).bind _ = _
  rw [Route.toList_path, Address.read?_text operation.route.values_ne_nil]
  exact operation.ofParts?_address

end EntitlementClient
