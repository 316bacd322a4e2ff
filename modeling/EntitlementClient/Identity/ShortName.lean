/-
Short names for registered object identifiers, by which the attributes of a name are shown.
-/
import EntitlementClient.Identity.ObjectId

namespace EntitlementClient.ShortName

/-- Names for the registrations below one node of the tree, by their last number. -/
def below (node : List Nat) (names : List (Nat × String)) : List (List Nat × String) :=
  names.map fun (n, name) => (node ++ [n], name)

/-- The attributes that are known by an abbreviation. -/
def abbreviations : List (List Nat × String) :=
  below [2, 5, 4] [(3, "CN"), (6, "C"), (7, "L"), (8, "ST"), (10, "O"), (11, "OU")] ++
  [([0, 9, 2342, 19200300, 100, 1, 25], "DC"), ([1, 2, 840, 113549, 1, 9, 1], "Email")]

/-- The attributes of the directory standard. -/
def directory : List (List Nat × String) :=
  [([2, 5, 4], "x509"), (ObjectId.userId, "uid")] ++
  below [2, 5, 4] [
    (0, "objectClass"), (1, "aliasedEntryName"), (2, "knowledgeInformation"), (4, "surname"),
    (5, "serialNumber"), (9, "streetAddress"), (12, "title"), (13, "description"),
    (14, "searchGuide"), (15, "businessCategory"), (16, "postalAddress"), (17, "postalCode"),
    (41, "name"), (42, "givenName"), (43, "initials"), (44, "generationQualifier"),
    (45, "uniqueIdentifier"), (46, "dnQualifier")] ++
  below [1, 3, 6, 1, 4, 1, 311, 60, 2, 1] [
    (1, "msJurisdictionLocality"), (2, "msJurisdictionStateOrProvince"),
    (3, "msJurisdictionCountry")]

/-- The extensions of certificates. -/
def extensions : List (List Nat × String) :=
  below [2, 5, 29] [
    (1, "authorityKeyIdentifier"), (2, "keyAttributes"), (3, "certificatePolicies"),
    (4, "keyUsage"), (5, "policyMapping"), (6, "subtreesConstraint"), (7, "subjectAltName"),
    (8, "issuerAltName"), (14, "subjectKeyIdentifier"), (15, "keyUsage"),
    (16, "privateKeyUsagePeriod"), (17, "subjectAltName"), (18, "issuerAltName"),
    (19, "basicConstraints"), (20, "crlNumber"), (21, "reasonCode"), (24, "invalidityDate"),
    (27, "deltaCRLIndicator"), (28, "issuingDistributionPoint"), (29, "certificateIssuer"),
    (30, "nameConstraints"), (31, "crlDistributionPoints"), (32, "certificatePolicies"),
    (33, "policyMappings"), (35, "authorityKeyIdentifier"), (36, "policyConstraints"),
    (37, "extendedKeyUsage"), (46, "freshestCRL"), (54, "inhibitantAnyPolicy")] ++
  below [1, 3, 6, 1, 5, 5, 7, 1] [(1, "authorityInfoAccess"), (11, "subjectInfoAccess")] ++
  below [1, 3, 6, 1, 5, 5, 7, 48] [
    (1, "id-ad-ocsp"), (2, "id-ad-caIssuers"), (3, "id-ad-timestamping"), (4, "id-ad-dvcs"),
    (5, "id-ad-caRepository"), (6, "id-ad-http-certs"), (7, "id-ad-http-crls"),
    (10, "id-ad-rpki-manifest"), (11, "id-ad-signed-object"), (13, "id-ad-rpki-notify"),
    (14, "id-ad-stirTNList")] ++
  below [2, 16, 840, 1, 113730, 1] [(1, "nsCertType"), (13, "nsComment")] ++
  [([1, 3, 6, 1, 4, 1, 11129, 2, 4, 2], "ctSCTList")]

/-- The public-key cryptography standards. -/
def publicKeyStandards : List (List Nat × String) :=
  [([1, 2, 840, 113549, 1, 1], "pkcs-1"), ([1, 2, 840, 113549, 1, 12], "pkcs-12"),
    ([1, 2, 840, 113549, 1, 12, 1], "pkcs-12PbeIds")] ++
  below [1, 2, 840, 113549, 1, 1] [
    (1, "rsaEncryption"), (2, "md2WithRSAEncryption"), (3, "md4WithRSAEncryption"),
    (4, "md5WithRSAEncryption"), (5, "sha1WithRSAEncryption"), (8, "id-mgf1"),
    (10, "rsassa-pss"), (11, "sha256WithRSAEncryption"), (12, "sha384WithRSAEncryption"),
    (13, "sha512WithRSAEncryption"), (14, "sha224WithRSAEncryption")] ++
  below [1, 2, 840, 113549, 1, 7] [
    (1, "id-data"), (2, "id-signedData"), (3, "id-envelopedData"),
    (4, "id-signedAndEnvelopedData"), (5, "id-digestedData"), (6, "id-encryptedData")] ++
  below [1, 2, 840, 113549, 1, 9] [
    (2, "unstructuredName"), (3, "contentType"), (4, "id-messageDigest"), (5, "signing-time"),
    (7, "challengePassword"), (14, "extensionRequest"), (15, "smimeCapabilities"),
    (20, "friendlyName")] ++
  below [1, 2, 840, 113549, 1, 12, 1] [
    (1, "pbeWithSHAAnd128BitRC4"), (2, "pbeWithSHAAnd40BitRC4"),
    (3, "pbeWithSHAAnd3-KeyTripleDES-CBC"), (4, "pbeWithSHAAnd2-KeyTripleDES-CBC"),
    (5, "pbeWithSHAAnd128BitRC2-CBC"), (6, "pbewithSHAAnd40BitRC2-CBC")]

/-- Hashes, ciphers, curves and the other signature algorithms. -/
def algorithms : List (List Nat × String) :=
  below [2, 16, 840, 1, 101, 3, 4, 2] [(1, "sha256"), (2, "sha384"), (3, "sha512")] ++
  [([2, 16, 840, 1, 101, 3, 4, 1, 42], "aes-256-cbc")] ++
  below [1, 3, 132, 0] [(34, "secp384r1"), (35, "secp521r1")] ++
  [([1, 2, 840, 10045, 3, 1, 7], "prime256v1"), ([1, 2, 840, 10045, 2, 1], "id-ecPublicKey")] ++
  below [1, 2, 840, 10045, 4, 3] [
    (1, "ecdsa-with-SHA224"), (2, "ecdsa-with-SHA256"), (3, "ecdsa-with-SHA384"),
    (4, "ecdsa-with-SHA512")] ++
  below [1, 2, 840, 10040, 4] [(1, "dsa"), (3, "dsa-with-sha1")] ++
  below [1, 3, 14, 3, 2] [(26, "id-SHA1"), (29, "sha-1WithRSAEncryption")] ++
  below [1, 3, 101] [(112, "ed25519"), (113, "ed448")] ++
  [([1, 3, 36, 3, 3, 1, 2], "rsaSignatureWithripemd160"),
    ([1, 3, 133, 16, 840, 63, 0, 2], "dhSinglePass-stdDH-sha1kdf-scheme")] ++
  below [1, 2, 643, 2, 2] [
    (3, "id-GostR3411-94-with-GostR3410-2001"), (19, "gostR3410-2001")] ++
  below [1, 2, 643, 7, 1, 1, 1] [(1, "gost3410-2012-256"), (2, "gost3410-2012-512")]

/-- All names, the one that is used first. -/
def all : List (List Nat × String) :=
  abbreviations ++ directory ++ extensions ++ publicKeyStandards ++ algorithms

/-- The short name of an object identifier, whose bytes have to be the shortest. -/
def find? (id : List UInt8) : Option String :=
  (all.find? fun entry => ObjectId.encode entry.1 == id).map Prod.snd

end EntitlementClient.ShortName
