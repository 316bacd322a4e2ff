/-
Entitlements: what a consumer has taken from a pool.
-/
import EntitlementClient.Model.Certificate
import EntitlementClient.Model.Pool

namespace EntitlementClient

open EntitlementClient.Schema

/-- An entitlement as the server describes it. -/
structure Entitlement where
  id : Option String := none
  pool : Option Pool := none
  quantity : Option Int64 := none
  startDate : Option String := none
  certificates : List EntitlementCertificate := []
deriving BEq

/-- How an entitlement is laid out in JSON. -/
def Entitlement.shape : Shape Entitlement :=
  .record "Entitlement"
    (.cons (.optional (.plain "id") .text) <|
     .cons (.optional (.plain "pool") Pool.shape) <|
     .cons (.optional (.plain "quantity") .signed) <|
     .cons (.optional (.labelled "startDate" "start_date") .text) <|
     .cons (.defaulted (.plain "certificates")
       (.list EntitlementCertificate.shape) .emptyList) .nil)
    { fields a := (a.id, a.pool, a.quantity, a.startDate, a.certificates, ())
      ofFields row := ⟨row.1, row.2.1, row.2.2.1, row.2.2.2.1, row.2.2.2.2.1⟩
      ofFields_fields _ := rfl
      fields_ofFields _ := rfl }

end EntitlementClient
