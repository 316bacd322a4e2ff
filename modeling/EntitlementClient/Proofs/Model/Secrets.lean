/-
Models with secrets: certificates with their private keys, what they are part of, and users to be
created. The text for people to read of a model shows whether a key is there and nothing of it.
-/
import EntitlementClient.Model.Consumer
import EntitlementClient.Model.Entitlement
import EntitlementClient.Schema.Inspect
import Mathlib.Data.List.Forall2

namespace EntitlementClient

open EntitlementClient.Schema EntitlementClient.Text

/-- The text for people to read of a list. -/
def inspectList {α : Type} (inspect : α → String) (items : List α) : String :=
  "[" ++ commaSeparated (items.map inspect) ++ "]"

/-! ## Values that differ in secrets alone -/

/-- Certificates that differ in the text of a private key that is there. -/
structure EntitlementCertificate.Alike (a b : EntitlementCertificate) : Prop where
  id : a.id = b.id
  key : a.key.isSome = b.key.isSome
  cert : a.cert = b.cert
  serial : a.serial = b.serial

@[inherit_doc EntitlementCertificate.Alike]
structure ProductCertificate.Alike (a b : ProductCertificate) : Prop where
  id : a.id = b.id
  key : a.key.isSome = b.key.isSome
  cert : a.cert = b.cert
  serial : a.serial = b.serial

/-- Consumers that differ in the text of the private key of their certificate. -/
structure Consumer.Alike (a b : Consumer) : Prop where
  id : a.id = b.id
  uuid : a.uuid = b.uuid
  name : a.name = b.name
  type : a.type = b.type
  owner : a.owner = b.owner
  idCert : Option.Rel EntitlementCertificate.Alike a.idCert b.idCert
  facts : a.facts = b.facts

/-- Entitlements that differ in the texts of the private keys of their certificates. -/
structure Entitlement.Alike (a b : Entitlement) : Prop where
  id : a.id = b.id
  pool : a.pool = b.pool
  quantity : a.quantity = b.quantity
  startDate : a.startDate = b.startDate
  certificates : List.Forall₂ EntitlementCertificate.Alike a.certificates b.certificates

/-- Users that differ in their passwords. -/
structure NewUser.Alike (a b : NewUser) : Prop where
  login : a.login = b.login

/-! ## What is shown -/

theorem EntitlementCertificate.inspect_eq (a : EntitlementCertificate) : EntitlementCertificate.shape.inspect a =
    inspectFields "EntitlementCertificate"
      [("id", inspectOption Json.inspect a.id), ("key", inspectOption (fun _ => mask) a.key),
        ("cert", inspectOption Quoted.quote a.cert),
        ("serial", inspectOption CertificateSerial.shape.inspect a.serial)] := rfl

theorem ProductCertificate.inspect_eq (a : ProductCertificate) : ProductCertificate.shape.inspect a =
    inspectFields "ProductCertificate"
      [("id", inspectOption Json.inspect a.id), ("key", inspectOption (fun _ => mask) a.key),
        ("cert", inspectOption Quoted.quote a.cert),
        ("serial", inspectOption CertificateSerial.shape.inspect a.serial)] := rfl

theorem Consumer.inspect_eq (a : Consumer) : Consumer.shape.inspect a =
    inspectFields "Consumer"
      [("id", inspectOption Quoted.quote a.id), ("uuid", inspectOption Quoted.quote a.uuid),
        ("name", inspectOption Quoted.quote a.name), ("consumer_type", inspectOption ConsumerType.shape.inspect a.type),
        ("owner", inspectOption Owner.shape.inspect a.owner),
        ("id_cert", inspectOption EntitlementCertificate.shape.inspect a.idCert),
        ("facts", inspectEntries (a.facts.entries.map fun e => (e.1, Quoted.quote e.2)))] := rfl

theorem Entitlement.inspect_eq (a : Entitlement) : Entitlement.shape.inspect a =
    inspectFields "Entitlement"
      [("id", inspectOption Quoted.quote a.id), ("pool", inspectOption Pool.shape.inspect a.pool),
        ("quantity", inspectOption (fun n => String.ofList (Json.writeInt n.toInt)) a.quantity),
        ("start_date", inspectOption Quoted.quote a.startDate),
        ("certificates", inspectList EntitlementCertificate.shape.inspect a.certificates)] := rfl

theorem NewUser.inspect_eq (a : NewUser) : NewUser.shape.inspect a =
    inspectFields "NewUser" [("login", Quoted.quote a.login), ("password", mask)] := rfl

/-! ## Secrets are not shown -/

section

variable {α : Type} {f : α → String} {R : α → α → Prop}

theorem inspectOption_eq_of_isSome (constant : ∀ x y, f x = f y) {a b : Option α} (h : a.isSome = b.isSome) :
    inspectOption f a = inspectOption f b := by
  cases a <;> cases b
  · rfl
  · cases h
  · cases h
  · rw [inspectOption, inspectOption, constant]

theorem inspectOption_eq_of_rel (same : ∀ x y, R x y → f x = f y) {a b : Option α} (h : Option.Rel R a b) :
    inspectOption f a = inspectOption f b := by
  cases h with
  | some h => rw [inspectOption, inspectOption, same _ _ h]
  | none => rfl

theorem inspectList_eq_of_forall₂ (same : ∀ x y, R x y → f x = f y) {a b : List α} (h : List.Forall₂ R a b) :
    inspectList f a = inspectList f b := by
  have texts : a.map f = b.map f := by
    induction h with
    | nil => rfl
    | cons h _ ih => rw [List.map_cons, List.map_cons, same _ _ h, ih]
  rw [inspectList, inspectList, texts]

end

theorem EntitlementCertificate.Alike.inspect_eq {a b : EntitlementCertificate} (h : a.Alike b) :
    EntitlementCertificate.shape.inspect a = EntitlementCertificate.shape.inspect b := by
  rw [EntitlementCertificate.inspect_eq, EntitlementCertificate.inspect_eq, h.id, h.cert, h.serial,
    inspectOption_eq_of_isSome (fun _ _ => rfl) h.key]

theorem ProductCertificate.Alike.inspect_eq {a b : ProductCertificate} (h : a.Alike b) :
    ProductCertificate.shape.inspect a = ProductCertificate.shape.inspect b := by
  rw [ProductCertificate.inspect_eq, ProductCertificate.inspect_eq, h.id, h.cert, h.serial,
    inspectOption_eq_of_isSome (fun _ _ => rfl) h.key]

theorem Consumer.Alike.inspect_eq {a b : Consumer} (h : a.Alike b) :
    Consumer.shape.inspect a = Consumer.shape.inspect b := by
  have idCert : inspectOption EntitlementCertificate.shape.inspect a.idCert =
      inspectOption EntitlementCertificate.shape.inspect b.idCert :=
    inspectOption_eq_of_rel (fun _ _ same => same.inspect_eq) h.idCert
  rw [Consumer.inspect_eq, Consumer.inspect_eq, h.id, h.uuid, h.name, h.type, h.owner, h.facts, idCert]

theorem Entitlement.Alike.inspect_eq {a b : Entitlement} (h : a.Alike b) :
    Entitlement.shape.inspect a = Entitlement.shape.inspect b := by
  have certificates : inspectList EntitlementCertificate.shape.inspect a.certificates =
      inspectList EntitlementCertificate.shape.inspect b.certificates :=
    inspectList_eq_of_forall₂ (fun _ _ same => same.inspect_eq) h.certificates
  rw [Entitlement.inspect_eq, Entitlement.inspect_eq, h.id, h.pool, h.quantity, h.startDate, certificates]

theorem NewUser.Alike.inspect_eq {a b : NewUser} (h : a.Alike b) :
    NewUser.shape.inspect a = NewUser.shape.inspect b := by
  rw [NewUser.inspect_eq, NewUser.inspect_eq, h.login]

/-! ## At any depth -/

/-- The models with secrets, values of them that may be absent, and lists of them, at any depth. -/
inductive Keeper
  | consumer
  | entitlement
  | entitlementCertificate
  | productCertificate
  | newUser
  | option (keeper : Keeper)
  | list (keeper : Keeper)

namespace Keeper

/-- The values. -/
def Value : Keeper → Type
  | consumer => Consumer
  | entitlement => Entitlement
  | entitlementCertificate => EntitlementCertificate
  | productCertificate => ProductCertificate
  | newUser => NewUser
  | option keeper => Option keeper.Value
  | list keeper => List keeper.Value

/-- The text for people to read. -/
def inspect : (keeper : Keeper) → keeper.Value → String
  | consumer => Consumer.shape.inspect
  | entitlement => Entitlement.shape.inspect
  | entitlementCertificate => EntitlementCertificate.shape.inspect
  | productCertificate => ProductCertificate.shape.inspect
  | newUser => NewUser.shape.inspect
  | option keeper => inspectOption keeper.inspect
  | list keeper => inspectList keeper.inspect

/-- Whether two values differ in secrets alone. -/
def Alike : (keeper : Keeper) → keeper.Value → keeper.Value → Prop
  | consumer => Consumer.Alike
  | entitlement => Entitlement.Alike
  | entitlementCertificate => EntitlementCertificate.Alike
  | productCertificate => ProductCertificate.Alike
  | newUser => NewUser.Alike
  | option keeper => Option.Rel keeper.Alike
  | list keeper => List.Forall₂ keeper.Alike

theorem inspect_eq (keeper : Keeper) {a b : keeper.Value} (h : keeper.Alike a b) :
    keeper.inspect a = keeper.inspect b := by
  induction keeper with
  | consumer => exact Consumer.Alike.inspect_eq h
  | entitlement => exact Entitlement.Alike.inspect_eq h
  | entitlementCertificate => exact EntitlementCertificate.Alike.inspect_eq h
  | productCertificate => exact ProductCertificate.Alike.inspect_eq h
  | newUser => exact NewUser.Alike.inspect_eq h
  | option keeper ih => exact inspectOption_eq_of_rel (fun _ _ same => ih same) h
  | list keeper ih => exact inspectList_eq_of_forall₂ (fun _ _ same => ih same) h

end Keeper

end EntitlementClient
