/-
Consumers (the systems that use entitlements) and their types.
-/
import EntitlementClient.Model.Certificate
import EntitlementClient.Model.Owner

namespace EntitlementClient

open EntitlementClient.Schema

/-- A type of consumer as the server describes it. -/
structure ConsumerType where
  id : Option Json := none
  label : Option String := none
deriving BEq

/-- How a type of consumer is laid out in JSON. -/
def ConsumerType.shape : Shape ConsumerType :=
  .record "ConsumerType"
    (.cons (.optional (.plain "id") .json) <|
     .cons (.optional (.plain "label") .text) .nil)
    { fields a := (a.id, a.label, ())
      ofFields row := ⟨row.1, row.2.1⟩
      ofFields_fields _ := rfl
      fields_ofFields _ := rfl }

/-- A type of consumer to be created. -/
structure NewConsumerType where
  label : String
deriving BEq

/-- How a new type of consumer is laid out in JSON. -/
def NewConsumerType.shape : Shape NewConsumerType :=
  .record "NewConsumerType"
    (.cons (.required (.plain "label") .text) .nil)
    { fields a := (a.label, ())
      ofFields row := ⟨row.1⟩
      ofFields_fields _ := rfl
      fields_ofFields _ := rfl }

/-- A type of consumer named by its label. -/
structure ConsumerTypeRef where
  label : String
deriving BEq

/-- How a reference to a type of consumer is laid out in JSON. -/
def ConsumerTypeRef.shape : Shape ConsumerTypeRef :=
  .record "ConsumerTypeRef"
    (.cons (.required (.plain "label") .text) .nil)
    { fields a := (a.label, ())
      ofFields row := ⟨row.1⟩
      ofFields_fields _ := rfl
      fields_ofFields _ := rfl }

/-- A consumer as the server describes it. -/
structure Consumer where
  id : Option String := none
  uuid : Option String := none
  name : Option String := none
  type : Option ConsumerType := none
  owner : Option Owner := none
  idCert : Option EntitlementCertificate := none
  facts : NameMap String := .empty
deriving BEq

/-- How a consumer is laid out in JSON. -/
def Consumer.shape : Shape Consumer :=
  .record "Consumer"
    (.cons (.optional (.plain "id") .text) <|
     .cons (.optional (.plain "uuid") .text) <|
     .cons (.optional (.plain "name") .text) <|
     .cons (.optional (.labelled "type" "consumer_type") ConsumerType.shape) <|
     .cons (.optional (.plain "owner") Owner.shape) <|
     .cons (.optional (.labelled "idCert" "id_cert") EntitlementCertificate.shape) <|
     .cons (.defaulted (.plain "facts") .texts .emptyMap) .nil)
    { fields a := (a.id, a.uuid, a.name, a.type, a.owner, a.idCert, a.facts, ())
      ofFields row := ⟨row.1, row.2.1, row.2.2.1, row.2.2.2.1, row.2.2.2.2.1, row.2.2.2.2.2.1,
        row.2.2.2.2.2.2.1⟩
      ofFields_fields _ := rfl
      fields_ofFields _ := rfl }

/-- A consumer to be registered. -/
structure NewConsumer where
  type : ConsumerTypeRef
  name : String
  uuid : Option String := none
deriving BEq

/-- How a new consumer is laid out in JSON. -/
def NewConsumer.shape : Shape NewConsumer :=
  .record "NewConsumer"
    (.cons (.required (.labelled "type" "consumer_type") ConsumerTypeRef.shape) <|
     .cons (.required (.plain "name") .text) <|
     .cons (.optional (.plain "uuid") .text) .nil)
    { fields a := (a.type, a.name, a.uuid, ())
      ofFields row := ⟨row.1, row.2.1, row.2.2.1⟩
      ofFields_fields _ := rfl
      fields_ofFields _ := rfl }

namespace NewConsumer

/-- The type of a consumer that is registered without one. -/
def defaultType : String := "system"

/-- A new consumer whose uuid the server is to choose. -/
def ofName (name typeLabel : String) : NewConsumer :=
  { type := ⟨typeLabel⟩, name, uuid := none }

/-- The consumer with a uuid of the caller's choice. -/
def withUuid (consumer : NewConsumer) (uuid : String) : NewConsumer :=
  { consumer with uuid := some uuid }

end NewConsumer

end EntitlementClient
