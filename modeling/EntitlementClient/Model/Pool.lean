/-
Pools of entitlements, and pools to be created.
-/
import EntitlementClient.Model.Owner

namespace EntitlementClient

open EntitlementClient.Schema

/-- A pool as the server describes it. -/
structure Pool where
  id : Option String := none
  activeSubscription : Option Bool := none
  subscriptionId : Option String := none
  quantity : Option Int64 := none
  consumed : Option Int64 := none
  startDate : Option String := none
  endDate : Option String := none
  productId : Option String := none
  productName : Option String := none
  owner : Option OwnerRef := none
deriving BEq

/-- How a pool is laid out in JSON. -/
def Pool.shape : Shape Pool :=
  .record "Pool"
    (.cons (.optional (.plain "id") .text) <|
     .cons (.optional (.labelled "activeSubscription" "active_subscription") .flag) <|
     .cons (.optional (.labelled "subscriptionId" "subscription_id") .text) <|
     .cons (.optional (.plain "quantity") .signed) <|
     .cons (.optional (.plain "consumed") .signed) <|
     .cons (.optional (.labelled "startDate" "start_date") .text) <|
     .cons (.optional (.labelled "endDate" "end_date") .text) <|
     .cons (.optional (.labelled "productId" "product_id") .text) <|
     .cons (.optional (.labelled "productName" "product_name") .text) <|
     .cons (.optional (.plain "owner") OwnerRef.shape) .nil)
    { fields a := (a.id, a.activeSubscription, a.subscriptionId, a.quantity, a.consumed,
        a.startDate, a.endDate, a.productId, a.productName, a.owner, ())
      ofFields row := ⟨row.1, row.2.1, row.2.2.1, row.2.2.2.1, row.2.2.2.2.1, row.2.2.2.2.2.1,
        row.2.2.2.2.2.2.1, row.2.2.2.2.2.2.2.1, row.2.2.2.2.2.2.2.2.1, row.2.2.2.2.2.2.2.2.2.1⟩
      ofFields_fields _ := rfl
      fields_ofFields _ := rfl }

/-- A pool to be created, with all that the server is told about it. -/
structure PoolRequest where
  activeSubscription : Bool
  subscriptionId : String
  quantity : Int64
  consumed : Int64
  startDate : Date
  endDate : Date
  productId : String
  owner : OwnerRef
deriving BEq

/-- How the request for a pool is laid out in JSON. -/
def PoolRequest.shape : Shape PoolRequest :=
  .record "PoolRequest"
    (.cons (.required (.labelled "activeSubscription" "active_subscription") .flag) <|
     .cons (.required (.labelled "subscriptionId" "subscription_id") .text) <|
     .cons (.required (.plain "quantity") .signed) <|
     .cons (.required (.plain "consumed") .signed) <|
     .cons (.required (.labelled "startDate" "start_date") .date) <|
     .cons (.required (.labelled "endDate" "end_date") .date) <|
     .cons (.required (.labelled "productId" "product_id") .text) <|
     .cons (.required (.plain "owner") OwnerRef.shape) .nil)
    { fields a := (a.activeSubscription, a.subscriptionId, a.quantity, a.consumed, a.startDate,
        a.endDate, a.productId, a.owner, ())
      ofFields row := ⟨row.1, row.2.1, row.2.2.1, row.2.2.2.1, row.2.2.2.2.1, row.2.2.2.2.2.1,
        row.2.2.2.2.2.2.1, row.2.2.2.2.2.2.2.1⟩
      ofFields_fields _ := rfl
      fields_ofFields _ := rfl }

/-! ## Pools to be created -/

/-- A pool to be created as the caller describes it. -/
structure NewPool where
  productId : String
  ownerId : String
  subscriptionId : String
  startDate : Option Date := none
  endDate : Option Date := none
  quantity : Int64 := 100

namespace NewPool

/-- One choice of a caller about a new pool. -/
inductive Setting
  | startDate (date : Date)
  | endDate (date : Date)
  | quantity (value : Int64)
deriving DecidableEq

/-- The pool after one more choice; the last choice counts. -/
def set (pool : NewPool) : Setting → NewPool
  | .startDate date => { pool with startDate := some date }
  | .endDate date => { pool with endDate := some date }
  | .quantity value => { pool with quantity := value }

/-- The pool after a series of choices. -/
def setAll (pool : NewPool) (settings : List Setting) : NewPool :=
  settings.foldl set pool

/-- How many days a pool lasts unless its end is given. -/
def defaultDays : Nat := 365

/-- The request for a pool. It starts today unless its start is given; there is none if an end that
is not given would lie beyond the calendar. -/
def request? (pool : NewPool) (today : Date) : Option PoolRequest := do
  let startDate := pool.startDate.getD today
  let endDate ← match pool.endDate with
    | some date => some date
    | none => startDate.addDays? defaultDays
  return {
    activeSubscription := false
    subscriptionId := pool.subscriptionId
    quantity := pool.quantity
    consumed := 0
    startDate
    endDate
    productId := pool.productId
    owner := ⟨pool.ownerId⟩ }

end NewPool

end EntitlementClient
