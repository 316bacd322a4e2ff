/-
What the server says of itself.
-/
import EntitlementClient.Schema.Basic

namespace EntitlementClient

open EntitlementClient.Schema

/-- The state of the server. -/
structure Status where
  result : Option Bool := none
  version : Option String := none
  release : Option String := none
deriving BEq

/-- How the state of the server is laid out in JSON. -/
def Status.shape : Shape Status :=
  .record "Status"
    (.cons (.optional (.plain "result") .flag) <|
     .cons (.optional (.plain "version") .text) <|
     .cons (.optional (.plain "release") .text) .nil)
    { fields a := (a.result, a.version, a.release, ())
      ofFields row := ⟨row.1, row.2.1, row.2.2.1⟩
      ofFields_fields _ := rfl
      fields_ofFields _ := rfl }

end EntitlementClient
