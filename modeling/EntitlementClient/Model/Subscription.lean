/-
Subscriptions of an owner to a product, and tokens for them. Both keep the members that the server
writes beyond the fields named here.
-/
import EntitlementClient.Model.Owner
import EntitlementClient.Model.Product

namespace EntitlementClient

open EntitlementClient.Schema

/-- A subscription as the server describes it. -/
structure Subscription where
  id : Option String := none
  owner : Option OwnerRef := none
  product : Option ProductRef := none
  quantity : Option Int64 := none
  startDate : Option String := none
  endDate : Option String := none
  contractNumber : Option String := none
  accountNumber : Option String := none
  extra : NameMap Json := .empty
deriving BEq

/-- How a subscription is laid out in JSON. -/
def Subscription.shape : Shape Subscription :=
  .openRecord "Subscription"
    (.cons (.optional (.plain "id") .text) <|
     .cons (.optional (.plain "owner") OwnerRef.shape) <|
     .cons (.optional (.plain "product") ProductRef.shape) <|
     .cons (.optional (.plain "quantity") .signed) <|
     .cons (.optional (.labelled "startDate" "start_date") .text) <|
     .cons (.optional (.labelled "endDate" "end_date") .text) <|
     .cons (.optional (.labelled "contractNumber" "contract_number") .text) <|
     .cons (.optional (.labelled "accountNumber" "account_number") .text) .nil)
    "extra"
    { fields a := ((a.id, a.owner, a.product, a.quantity, a.startDate, a.endDate, a.contractNumber,
        a.accountNumber, ()), a.extra)
      ofFields row := ⟨row.1.1, row.1.2.1, row.1.2.2.1, row.1.2.2.2.1, row.1.2.2.2.2.1,
        row.1.2.2.2.2.2.1, row.1.2.2.2.2.2.2.1, row.1.2.2.2.2.2.2.2.1, row.2⟩
      ofFields_fields _ := rfl
      fields_ofFields _ := rfl }

/-- A subscription named by its id. -/
structure SubscriptionRef where
  id : String
deriving BEq

/-- How a reference to a subscription is laid out in JSON. -/
def SubscriptionRef.shape : Shape SubscriptionRef :=
  .record "SubscriptionRef"
    (.cons (.required (.plain "id") .text) .nil)
    { fields a := (a.id, ())
      ofFields row := ⟨row.1⟩
      ofFields_fields _ := rfl
      fields_ofFields _ := rfl }

/-- A token for a subscription. -/
structure SubscriptionToken where
  id : Option String := none
  token : Option String := none
  subscription : Option SubscriptionRef := none
  extra : NameMap Json := .empty
deriving BEq

/-- How a token is laid out in JSON. -/
def SubscriptionToken.shape : Shape SubscriptionToken :=
  .openRecord "SubscriptionToken"
    (.cons (.optional (.plain "id") .text) <|
     .cons (.optional (.plain "token") .text) <|
     .cons (.optional (.plain "subscription") SubscriptionRef.shape) .nil)
    "extra"
    { fields a := ((a.id, a.token, a.subscription, ()), a.extra)
      ofFields row := ⟨row.1.1, row.1.2.1, row.1.2.2.1, row.2⟩
      ofFields_fields _ := rfl
      fields_ofFields _ := rfl }

end EntitlementClient
