/-
Routes: the resources of the server by what they are, and the addresses under which they are
reached.
-/
import EntitlementClient.Route.Address

namespace EntitlementClient

/-- Which pools are asked for. -/
structure PoolFilter where
  consumer : Option String := none
  owner : Option String := none
  product : Option String := none
  listAll : Bool := false
deriving DecidableEq

/-- The parameters of a filter: those that are given, in a fixed order. -/
def PoolFilter.parameters (filter : PoolFilter) : List Parameter :=
  [("consumer", filter.consumer), ("owner", filter.owner), ("product", filter.product),
    ("listall", if filter.listAll then some "true" else none)].filterMap fun p =>
      p.2.map (Parameter.single p.1)

/-- A resource of the server. -/
inductive Route
  | owners
  | owner (id : String)
  | ownerUsers (owner : String)
  | ownerSubscriptions (owner : String)
  | consumerTypes
  | consumerType (id : String)
  | consumers
  | consumer (id : String)
  | pool (id : String)
  | poolCollection
  | pools (filter : PoolFilter)
  | consumerEntitlements (uuid : String)
  | consumePool (uuid pool : String)
  | consumeProduct (uuid product : String) (quantity : Option UInt32)
  | consumeToken (uuid token : String)
  | listEntitlements (uuid : String) (product : Option String)
  | consumerEntitlement (uuid id : String)
  | entitlement (id : String)
  | consumerCertificates (uuid : String) (serials : List UInt64)
  | consumerCertificateSerials (uuid : String)
  | products (children : List String)
  | product (id : String)
  | productCertificate (id : String)
  | productContent (product content : String) (enabled : Bool)
  | content
  | contentItem (id : String)
  | subscription (id : String)
  | subscriptionTokens
  | subscriptionToken (id : String)
  | certificates
  | status
  | rules
  | rulesUpload
deriving DecidableEq

namespace Route

/-- The word for a truth value in a query. -/
def flagWord (b : Bool) : String :=
  if b then "true" else "false"

/-- The address of a resource. -/
def address : Route → Address
  | .owners => ⟨["owners"], none⟩
  | .owner id => ⟨["owners", id], none⟩
  | .ownerUsers ownerId => ⟨["owners", ownerId, "users"], none⟩
  | .ownerSubscriptions ownerId => ⟨["owners", ownerId, "subscriptions"], none⟩
  | .consumerTypes => ⟨["consumertypes"], none⟩
  | .consumerType id => ⟨["consumertypes", id], none⟩
  | .consumers => ⟨["consumers"], none⟩
  | .consumer id => ⟨["consumers", id], none⟩
  | .pool id => ⟨["pools", id], none⟩
  | .poolCollection => ⟨["pools"], none⟩
  | .pools filter => ⟨["pools"], some ⟨filter.parameters, .after⟩⟩
  | .consumerEntitlements uuid => ⟨["consumers", uuid, "entitlements"], none⟩
  | .consumePool uuid poolId =>
    ⟨["consumers", uuid, "entitlements"], some (.of [.single "pool" poolId])⟩
  | .consumeProduct uuid productId quantity =>
    ⟨["consumers", uuid, "entitlements"],
      some (.of (.single "product" productId ::
        (quantity.map fun n => Parameter.single "quantity" (toString n.toNat)).toList))⟩
  | .consumeToken uuid token =>
    ⟨["consumers", uuid, "entitlements"], some (.of [.single "token" token])⟩
  | .listEntitlements uuid productId =>
    ⟨["consumers", uuid, "entitlements"],
      Query.ofNonempty? (productId.map (Parameter.single "product")).toList⟩
  | .consumerEntitlement uuid id => ⟨["consumers", uuid, "entitlements", id], none⟩
  | .entitlement id => ⟨["entitlements", id], none⟩
  | .consumerCertificates uuid serials =>
    ⟨["consumers", uuid, "certificates"],
      if serials.isEmpty then none
      else some (.of [⟨"serials", serials.map fun n => toString n.toNat⟩])⟩
  | .consumerCertificateSerials uuid => ⟨["consumers", uuid, "certificates", "serials"], none⟩
  | .products children =>
    ⟨["products"], Query.ofNonempty? (children.map (Parameter.single "childId"))⟩
  | .product id => ⟨["products", id], none⟩
  | .productCertificate id => ⟨["products", id, "certificate"], none⟩
  | .productContent productId contentLabel enabled =>
    ⟨["products", productId, "content", contentLabel],
      some (.of [.single "enabled" (flagWord enabled)])⟩
  | .content => ⟨["content"], none⟩
  | .contentItem id => ⟨["content", "id", id], none⟩
  | .subscription id => ⟨["subscriptions", id], none⟩
  | .subscriptionTokens => ⟨["subscriptiontokens"], none⟩
  | .subscriptionToken id => ⟨["subscriptiontokens", id], none⟩
  | .certificates => ⟨["certificates"], none⟩
  | .status => ⟨["status", ""], none⟩
  | .rules => ⟨["rules"], none⟩
  | .rulesUpload => ⟨["rules", ""], none⟩

/-- The path and the query under which a resource is reached. -/
def path (route : Route) : String :=
  String.ofList route.address.text

end Route

end EntitlementClient
