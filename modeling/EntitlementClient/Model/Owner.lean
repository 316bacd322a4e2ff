/-
Owners (the organisations that hold subscriptions) and their users.
-/
import EntitlementClient.Schema.Basic

namespace EntitlementClient

open EntitlementClient.Schema

/-- An owner as the server describes it. -/
structure Owner where
  id : Option String := none
  key : Option String := none
  displayName : Option String := none
deriving BEq

/-- How an owner is laid out in JSON. -/
def Owner.shape : Shape Owner :=
  .record "Owner"
    (.cons (.optional (.plain "id") .text) <|
     .cons (.optional (.plain "key") .text) <|
     .cons (.optional (.labelled "displayName" "display_name") .text) .nil)
    { fields a := (a.id, a.key, a.displayName, ())
      ofFields row := ⟨row.1, row.2.1, row.2.2.1⟩
      ofFields_fields _ := rfl
      fields_ofFields _ := rfl }

/-- An owner to be created. -/
structure NewOwner where
  key : String
  displayName : String
deriving BEq

/-- How a new owner is laid out in JSON. -/
def NewOwner.shape : Shape NewOwner :=
  .record "NewOwner"
    (.cons (.required (.plain "key") .text) <|
     .cons (.required (.labelled "displayName" "display_name") .text) .nil)
    { fields a := (a.key, a.displayName, ())
      ofFields row := ⟨row.1, row.2.1⟩
      ofFields_fields _ := rfl
      fields_ofFields _ := rfl }

/-- A new owner whose key and display name are one text. -/
def NewOwner.named (name : String) : NewOwner :=
  ⟨name, name⟩

/-- An owner named by its id. -/
structure OwnerRef where
  id : String
deriving BEq

/-- How a reference to an owner is laid out in JSON. -/
def OwnerRef.shape : Shape OwnerRef :=
  .record "OwnerRef"
    (.cons (.required (.plain "id") .text) .nil)
    { fields a := (a.id, ())
      ofFields row := ⟨row.1⟩
      ofFields_fields _ := rfl
      fields_ofFields _ := rfl }

/-- A user as the server describes it. -/
structure User where
  id : Option String := none
  login : Option String := none
  superAdmin : Option Bool := none
deriving BEq

/-- How a user is laid out in JSON. -/
def User.shape : Shape User :=
  .record "User"
    (.cons (.optional (.plain "id") .text) <|
     .cons (.optional (.plain "login") .text) <|
     .cons (.optional (.labelled "superAdmin" "super_admin") .flag) .nil)
    { fields a := (a.id, a.login, a.superAdmin, ())
      ofFields row := ⟨row.1, row.2.1, row.2.2.1⟩
      ofFields_fields _ := rfl
      fields_ofFields _ := rfl }

/-- A user to be created. -/
structure NewUser where
  login : String
  password : String
deriving BEq

/-- How a new user is laid out in JSON. The password is hidden from text for people to read. -/
def NewUser.shape : Shape NewUser :=
  .record "NewUser"
    (.cons (.required (.plain "login") .text) <|
     .cons (.required (.secret "password") .text) .nil)
    { fields a := (a.login, a.password, ())
      ofFields row := ⟨row.1, row.2.1⟩
      ofFields_fields _ := rfl
      fields_ofFields _ := rfl }

end EntitlementClient
