/-
Certificates that the server hands out with entitlements and products, and their serials.
-/
import EntitlementClient.Schema.Basic

namespace EntitlementClient

open EntitlementClient.Schema

/-- The serial of a certificate. -/
structure CertificateSerial where
  id : Option UInt64 := none
  serial : Option UInt64 := none
  expiration : Option String := none
  revoked : Option Bool := none
deriving BEq

/-- How a serial is laid out in JSON. -/
def CertificateSerial.shape : Shape CertificateSerial :=
  .record "CertificateSerial"
    (.cons (.optional (.plain "id") .unsigned) <|
     .cons (.optional (.plain "serial") .unsigned) <|
     .cons (.optional (.plain "expiration") .text) <|
     .cons (.optional (.plain "revoked") .flag) .nil)
    { fields a := (a.id, a.serial, a.expiration, a.revoked, ())
      ofFields row := ⟨row.1, row.2.1, row.2.2.1, row.2.2.2.1⟩
      ofFields_fields _ := rfl
      fields_ofFields _ := rfl }

/-- The certificate of an entitlement with its private key. -/
structure EntitlementCertificate where
  id : Option Json := none
  key : Option String := none
  cert : Option String := none
  serial : Option CertificateSerial := none
deriving BEq

/-- How the certificate of an entitlement is laid out in JSON. The key is hidden from text for
people to read. -/
def EntitlementCertificate.shape : Shape EntitlementCertificate :=
  .record "EntitlementCertificate"
    (.cons (.optional (.plain "id") .json) <|
     .cons (.optional (.secret "key") .text) <|
     .cons (.optional (.plain "cert") .text) <|
     .cons (.optional (.plain "serial") CertificateSerial.shape) .nil)
    { fields a := (a.id, a.key, a.cert, a.serial, ())
      ofFields row := ⟨row.1, row.2.1, row.2.2.1, row.2.2.2.1⟩
      ofFields_fields _ := rfl
      fields_ofFields _ := rfl }

/-- The certificate of a product with its private key. -/
structure ProductCertificate where
  id : Option Json := none
  key : Option String := none
  cert : Option String := none
  serial : Option CertificateSerial := none
deriving BEq

/-- How the certificate of a product is laid out in JSON. The key is hidden from text for people to
read. -/
def ProductCertificate.shape : Shape ProductCertificate :=
  .record "ProductCertificate"
    (.cons (.optional (.plain "id") .json) <|
     .cons (.optional (.secret "key") .text) <|
     .cons (.optional (.plain "cert") .text) <|
     .cons (.optional (.plain "serial") CertificateSerial.shape) .nil)
    { fields a := (a.id, a.key, a.cert, a.serial, ())
      ofFields row := ⟨row.1, row.2.1, row.2.2.1, row.2.2.2.1⟩
      ofFields_fields _ := rfl
      fields_ofFields _ := rfl }

end EntitlementClient
