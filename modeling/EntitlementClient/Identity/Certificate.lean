/-
Certificates: the layout that a certificate must have, and the name of its subject. Signatures and
dates are not verified.
-/
import EntitlementClient.Identity.Ber
import EntitlementClient.Identity.Name
import EntitlementClient.Identity.Time

namespace EntitlementClient.Certificate

open EntitlementClient.Der

/-- Whether some bytes are a non-negative integer of 32 bits with no byte too many. -/
def isWord (bytes : List UInt8) : Bool :=
  match bytes with
  | [] => false
  | [a] => decide (a < 0x80)
  | a :: b :: _ =>
    decide (a < 0x80) && (a != 0 || decide (0x80 ≤ b)) && decide (bigEndian bytes < 0x100000000)

/-- Passes the version, which may be absent. -/
def passVersion (bytes : List UInt8) : Option (List UInt8) := do
  let (element, rest) ← read? bytes
  -- without a version the serial number stands here, and nothing is passed
  if element.tag = 0 then
    guard (element.isTagged 0)
    let (version, _) ← read? element.content
    guard (version.tag == Tag.integer && !version.constructed && isWord version.content)
    return rest
  else return bytes

/-- Passes the identifier of an algorithm: a sequence of an object identifier and perhaps
parameters. -/
def passAlgorithm (bytes : List UInt8) : Option (List UInt8) := do
  let (element, rest) ← readIf Element.isSequence bytes
  let (_, parameters) ← readIf Element.holdsObjectId element.content
  guard (parameters.isEmpty || (read? parameters).isSome)
  return rest

/-- Whether an element is a time. -/
def isTime (element : Element) : Bool :=
  (element.tag == Tag.utcTime && CertificateTime.isShort element.content) ||
    (element.tag == Tag.generalizedTime && CertificateTime.isLong element.content)

/-- Passes the two times between which a certificate is valid. -/
def passValidity (bytes : List UInt8) : Option (List UInt8) := do
  let (element, rest) ← readIf Element.isSequence bytes
  let (_, later) ← readIf isTime element.content
  let _ ← readIf isTime later
  return rest

/-- Passes a public key: an algorithm and a sequence of bits. -/
def passPublicKey (bytes : List UInt8) : Option (List UInt8) := do
  let (element, rest) ← readIf Element.isSequence bytes
  let key ← passAlgorithm element.content
  let _ ← readIf Element.isBitString key
  return rest

/-- Passes an identifier with a tag of its own, which may be absent. -/
def passUniqueId (tag : Nat) (bytes : List UInt8) : Option (List UInt8) :=
  match bytes with
  | [] => some []
  | _ => do
    let (header, _) ← readHeader bytes
    guard header.length.isSome
    if header.tag = tag then
      let (element, rest) ← readIf (Element.isTagged · tag) bytes
      guard !element.content.isEmpty
      return rest
    else return bytes

/-- Whether an element is an extension: an object identifier, perhaps a truth value, and a sequence
of bytes. -/
def isExtension (element : Element) : Bool :=
  element.isSequence &&
    match readIf Element.holdsObjectId element.content with
    | none => false
    | some (_, rest) =>
      match readIf (fun e => e.tag == Tag.boolean && e.content.length == 1) rest with
      | none => (readIf Element.isOctetString rest).isSome
      | some (_, rest) => (readIf Element.isOctetString rest).isSome

/-- Whether the bytes at the end of a certificate's body are its extensions or nothing. -/
def areExtensions (bytes : List UInt8) : Bool :=
  bytes.isEmpty ||
    match readHeader bytes with
    | none => false
    | some (header, content) =>
      header.tag == 3 && header.length.isSome &&
        match readIf Element.isSequence content with
        | some (extensions, []) =>
          match allElements? extensions.content with
          | some all => all.all isExtension
          | none => false
        | _ => false

/-- The subject in the body of a certificate. -/
def subjectOfBody? (body : List UInt8) : Option Name := do
  let s ← passVersion body
  -- the length of the serial number may be left open
  let s ← Ber.pass? Tag.integer s
  let s ← passAlgorithm s
  let (_, s) ← readIf Element.isSequence s
  let s ← passValidity s
  let (subject, s) ← readIf Element.isSequence s
  let s ← passPublicKey s
  let s ← passUniqueId 1 s
  let s ← passUniqueId 2 s
  guard (areExtensions s)
  return Name.ofContent subject.content

/-- The subject of a certificate: of a sequence of its body, an algorithm and a signature. What
stands after them does not matter. -/
def subject? (bytes : List UInt8) : Option Name := do
  let (certificate, _) ← readIf Element.isSequence bytes
  let (body, s) ← readIf Element.isSequence certificate.content
  let subject ← subjectOfBody? body.content
  let s ← passAlgorithm s
  let _ ← readIf Element.isBitString s
  return subject

end EntitlementClient.Certificate
