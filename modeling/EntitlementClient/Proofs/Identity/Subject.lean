/-
Names as they are written in certificates: every name is the subject of a certificate, whatever its groups and
attributes are, and a text with the certificate in it is read as such.
-/
import EntitlementClient.Proofs.Identity.Der
import EntitlementClient.Proofs.Session.Presenting

namespace EntitlementClient

open EntitlementClient.Text EntitlementClient.Der

/-! ## Names -/

theorem leading_map {α β : Type} {f : α → Option β} {g : β → α} : ∀ {items : List β}, (∀ b ∈ items, f (g b) = some b) →
    leading f (items.map g) = items
  | [], _ => rfl
  | b :: items, h => by
    rw [List.map_cons, leading, h b List.mem_cons_self]
    exact congrArg (b :: ·) (leading_map fun c hc => h c (List.mem_cons_of_mem b hc))

/-- What is made of each element is made of all that are written one after another. -/
theorem leading_ofParts {β : Type} {f : Element → Option β} {g : β → Element} {tag : Nat} {items : List β}
    (fits : (Element.ofParts 0 tag (items.map g)).content.length < 0x10000000000000000)
    (writable : ∀ b ∈ items, (g b).content.length < 0x10000000000000000 → (g b).Writable)
    (read : ∀ b ∈ items, (g b).content.length < 0x10000000000000000 → f (g b) = some b) :
    leading f (elements (Element.ofParts 0 tag (items.map g)).content).1 = items := by
  have fit : ∀ b ∈ items, (g b).content.length < 0x10000000000000000 := fun b hb =>
    Nat.lt_of_le_of_lt (Element.length_part_le (List.mem_map_of_mem hb)) fits
  have each : ∀ e ∈ items.map g, e.Writable := by
    intro e he
    obtain ⟨b, hb, rfl⟩ := List.mem_map.1 he
    exact writable b hb (fit b hb)
  rw [Element.ofParts, elements_write each]
  exact leading_map fun b hb => read b hb (fit b hb)

/-- The element of an attribute: its type and its value. -/
def Attribute.element (a : Attribute) : Element :=
  .ofParts 0 Tag.sequence [⟨0, Tag.objectId, false, a.type⟩, ⟨0, a.tag, false, a.value⟩]

theorem Attribute.ofElement?_element {a : Attribute} (tag_lt : a.tag < 31)
    (fits : a.element.content.length < 0x10000000000000000) : ofElement? a.element = some a := by
  have type : (⟨0, Tag.objectId, false, a.type⟩ : Element).Writable :=
    ⟨Nat.zero_lt_succ 3, show Tag.objectId < 31 by decide,
      Nat.lt_of_le_of_lt (Element.length_part_le List.mem_cons_self) fits⟩
  have value : (⟨0, a.tag, false, a.value⟩ : Element).Writable :=
    ⟨Nat.zero_lt_succ 3, tag_lt,
      Nat.lt_of_le_of_lt (Element.length_part_le (List.mem_cons_of_mem _ List.mem_cons_self)) fits⟩
  have content : a.element.content =
      (⟨0, Tag.objectId, false, a.type⟩ : Element).write ++ ((⟨0, a.tag, false, a.value⟩ : Element).write ++ []) := rfl
  rw [ofElement?, if_pos (show a.element.isSequence = true from rfl), content, readIf_write type rfl]
  simp only [read?_write value, Option.map_some]

namespace Name

/-- Whether a name can be written: each group has an attribute, and each tag takes one byte. -/
structure Writable (name : Name) : Prop where
  group_ne_nil : ∀ group ∈ name, group ≠ []
  tag_lt : ∀ group ∈ name, ∀ a ∈ group, a.tag < 31

/-- The element of a group. -/
def groupElement (group : List Attribute) : Element :=
  .ofParts 0 Tag.set (group.map Attribute.element)

theorem groupOfElement?_groupElement {group : List Attribute} (ne : group ≠ []) (tag_lt : ∀ a ∈ group, a.tag < 31)
    (fits : (groupElement group).content.length < 0x10000000000000000) :
    groupOfElement? (groupElement group) = some group := by
  have read : leading Attribute.ofElement? (elements (groupElement group).content).1 = group :=
    leading_ofParts fits (fun a _ => .ofParts (by decide) (by decide)) fun a ha =>
      Attribute.ofElement?_element (tag_lt a ha)
  rw [groupOfElement?, if_pos (show (groupElement group).tag = Tag.set from rfl), read]
  cases group with
  | nil => exact absurd rfl ne
  | cons => rfl

/-- The element of a name. -/
def element (name : Name) : Element :=
  .ofParts 0 Tag.sequence (name.map groupElement)

theorem ofContent_element {name : Name} (h : name.Writable) (fits : name.element.content.length < 0x10000000000000000) :
    ofContent name.element.content = name :=
  leading_ofParts fits (fun _ _ => .ofParts (by decide) (by decide)) fun group hg =>
    groupOfElement?_groupElement (h.group_ne_nil group hg) (h.tag_lt group hg)

end Name

/-! ## Certificates -/

namespace Certificate

/-- The version of certificates with extensions. -/
def version : Element :=
  .ofParts contextClass 0 [⟨0, Tag.integer, false, [2]⟩]

/-- The serial number one. -/
def serial : Element :=
  ⟨0, Tag.integer, false, [1]⟩

/-- An algorithm for signatures. -/
def algorithm : Element :=
  .ofParts 0 Tag.sequence [⟨0, Tag.objectId, false, [0x2A, 0x86, 0x48, 0xCE, 0x3D, 0x04, 0x03, 0x02]⟩]

/-- The first second of the year 2024. -/
def time : Element :=
  ⟨0, Tag.utcTime, false, [0x32, 0x34, 0x30, 0x31, 0x30, 0x31, 0x30, 0x30, 0x30, 0x30, 0x30, 0x30, 0x5A]⟩

/-- The time between two times. -/
def validity : Element :=
  .ofParts 0 Tag.sequence [time, time]

/-- No bits at all. -/
def noBits : Element :=
  ⟨0, Tag.bitString, false, [0]⟩

/-- A public key without bits. -/
def publicKey : Element :=
  .ofParts 0 Tag.sequence [algorithm, noBits]

/-- The body of a certificate for a name, from an issuer without attributes. -/
def body (subject : Name) : Element :=
  .ofParts 0 Tag.sequence [version, serial, algorithm, Name.element [], validity, subject.element, publicKey]

/-- A certificate for a name, with an empty signature. -/
def ofSubject (subject : Name) : Element :=
  .ofParts 0 Tag.sequence [body subject, algorithm, noBits]

section

variable (rest : List UInt8)

theorem passVersion_version : passVersion (version.write ++ rest) = some rest := by
  rw [passVersion, read?_write ⟨by decide, by decide, by decide⟩]
  rfl

theorem pass?_serial : Ber.pass? Tag.integer (serial.write ++ rest) = some rest := by
  rw [Ber.pass?, readHeader_write ⟨by decide, by decide, by decide⟩]
  rfl

theorem passAlgorithm_algorithm : passAlgorithm (algorithm.write ++ rest) = some rest := by
  rw [passAlgorithm, readIf_write ⟨by decide, by decide, by decide⟩ (by decide)]
  rfl

theorem readIf_noBits : readIf Element.isBitString (noBits.write ++ rest) = some (noBits, rest) :=
  readIf_write ⟨by decide, by decide, by decide⟩ (by decide) rest

theorem passValidity_validity : passValidity (validity.write ++ rest) = some rest := by
  rw [passValidity, readIf_write ⟨by decide, by decide, by decide⟩ (by decide)]
  rfl

theorem passPublicKey_publicKey : passPublicKey (publicKey.write ++ rest) = some rest := by
  rw [passPublicKey, readIf_write ⟨by decide, by decide, by decide⟩ (by decide)]
  rfl

end

variable {subject : Name}

theorem subjectOfBody?_body (h : subject.Writable) (fits : subject.element.content.length < 0x10000000000000000) :
    subjectOfBody? (body subject).content = some subject := by
  have content : (body subject).content = version.write ++ (serial.write ++ (algorithm.write ++
      ((Name.element []).write ++ (validity.write ++ (subject.element.write ++ (publicKey.write ++ [])))))) := rfl
  have issuer : ∀ rest, readIf Element.isSequence ((Name.element []).write ++ rest) = some (Name.element [], rest) :=
    readIf_sequence (by decide)
  have name : ∀ rest, readIf Element.isSequence (subject.element.write ++ rest) = some (subject.element, rest) :=
    readIf_sequence fits
  rw [content]
  simp only [subjectOfBody?, passVersion_version, pass?_serial, passAlgorithm_algorithm, issuer, passValidity_validity,
    name, passPublicKey_publicKey, Name.ofContent_element h fits, Option.bind_eq_bind, Option.bind_some]
  rfl

/-- Every name is the subject of a certificate. -/
theorem subject?_ofSubject (h : subject.Writable) (fits : (ofSubject subject).content.length < 0x10000000000000000) :
    subject? (ofSubject subject).write = some subject := by
  have bodyFits : (body subject).content.length < 0x10000000000000000 :=
    Nat.lt_of_le_of_lt (Element.length_part_le List.mem_cons_self) fits
  have nameFits : subject.element.content.length < 0x10000000000000000 :=
    Nat.lt_of_le_of_lt (Element.length_part_le (by simp)) bodyFits
  have content : (ofSubject subject).content = (body subject).write ++ (algorithm.write ++ (noBits.write ++ [])) := rfl
  have whole : readIf Element.isSequence ((ofSubject subject).write ++ []) = some (ofSubject subject, []) :=
    readIf_sequence fits []
  have first : ∀ rest, readIf Element.isSequence ((body subject).write ++ rest) = some (body subject, rest) :=
    readIf_sequence bodyFits
  rw [List.append_nil] at whole
  simp only [subject?, whole, content, first, subjectOfBody?_body h nameFits, passAlgorithm_algorithm, readIf_noBits,
    Option.bind_eq_bind, Option.bind_some]
  rfl

end Certificate

/-! ## Texts -/

namespace Pem

open Session (blockText)

/-- Whether a text can be the label of a block: it has no line break and no dash. -/
def IsLabel (label : String) : Prop :=
  '\n' ∉ label.toList ∧ '-' ∉ label.toList

instance (label : String) : Decidable (IsLabel label) :=
  inferInstanceAs (Decidable ('\n' ∉ label.toList ∧ '-' ∉ label.toList))

variable {label : String}

theorem lines_append {s : List Char} (h : '\n' ∉ s) (t : List Char) : lines (s ++ '\n' :: t) = s :: lines t :=
  splitWhere_append_cons (p := (· == '\n')) (beq_self_eq_true _) t
    fun _ hc => beq_eq_false_iff_ne.2 (ne_of_mem_of_not_mem hc h)

/-- A block has three lines. -/
theorem lines_blockText (h : IsLabel label) (content : List UInt8) :
    lines (blockText label content) =
      [beginMark ++ label.toList ++ fence, Base64.encode content, endMark ++ label.toList ++ fence, []] := by
  have marked : ∀ mark : List Char, '\n' ∉ mark → '\n' ∉ mark ++ label.toList ++ fence := by
    intro mark plain
    have fenced : '\n' ∉ fence := by decide
    simp only [List.mem_append, plain, h.1, fenced, or_self, not_false_eq_true]
  have signs : '\n' ∉ Base64.encode content := by
    intro hc
    exact absurd (Base64.isSign_encode content _ hc) (by decide)
  have parts : blockText label content = (beginMark ++ label.toList ++ fence) ++ '\n' ::
      (Base64.encode content ++ '\n' :: ((endMark ++ label.toList ++ fence) ++ '\n' :: [])) := by
    simp only [blockText, List.append_assoc, List.cons_append]
  rw [parts, lines_append (marked _ (by decide)), lines_append signs, lines_append (marked _ (by decide))]
  rfl

theorem occursIn_append (piece : List Char) : ∀ s : List Char, occursIn piece (s ++ piece) = true
  | [] => by
    cases piece with
    | nil => rfl
    | cons c piece => rw [List.nil_append, occursIn, List.isPrefixOf_iff_prefix.2 (List.prefix_refl _), Bool.true_or]
  | c :: s => by rw [List.cons_append, occursIn, occursIn_append piece s, Bool.or_true]

/-- A block is read as it is written. -/
theorem first_blockText (h : IsLabel label) (content : List UInt8) :
    first (blockText label content) = .ok ⟨label, content⟩ := by
  have begins : beginMark.isPrefixOf (beginMark ++ label.toList ++ fence) = true := by
    rw [List.append_assoc, List.isPrefixOf_iff_prefix]
    exact List.prefix_append _ _
  have ends : endMark.isPrefixOf (endMark ++ label.toList ++ fence) = true := by
    rw [List.append_assoc, List.isPrefixOf_iff_prefix]
    exact List.prefix_append _ _
  have trimmed : trimEnd (Base64.encode content) = Base64.encode content := by
    refine dropEndWhile_eq_self fun c last => ?_
    have sign := Base64.isSign_encode content c (List.mem_of_getLast? last)
    rw [Bool.eq_false_iff]
    intro blank
    rw [Base64.not_isSign_of_isBlank blank] at sign
    cases sign
  have plain : endMark.isPrefixOf (Base64.encode content) = false :=
    not_isPrefixOf_of_no_dash (by decide) (no_dash_of_isSign fun c hc => Base64.isSign_encode content c (trimmed ▸ hc))
  have named : (label.toList ++ fence).takeWhile (· != '-') = label.toList := by
    rw [List.takeWhile_append_of_pos fun c hc => bne_iff_ne.2 (ne_of_mem_of_not_mem hc h.2)]
    exact List.append_nil _
  have after : (beginMark ++ label.toList ++ fence).drop beginMark.length = label.toList ++ fence := by
    rw [List.append_assoc, List.drop_left]
  rw [first, lines_blockText h, List.dropWhile_cons_of_neg (by rw [begins]; decide)]
  simp only [after, occursIn_append, if_true, body?, plain, ends, Bool.false_eq_true, if_false,
    Option.map_some, trimmed, List.append_nil, Base64.decode?_encode, named, String.ofList_toList]

end Pem

namespace IdentityCertificate

/-- The text of a certificate for a name. -/
def textOfSubject (subject : Name) : String :=
  String.ofList (Session.blockText "CERTIFICATE" (Certificate.ofSubject subject).write)

theorem readSubject_textOfSubject {subject : Name} (h : subject.Writable)
    (fits : (Certificate.ofSubject subject).content.length < 0x10000000000000000) :
    readSubject (textOfSubject subject) = .ok subject := by
  rw [readSubject_ok, textOfSubject, String.toList_ofList]
  exact ⟨_, Pem.first_blockText (by decide) _, Certificate.subject?_ofSubject h fits⟩

theorem checkKey_keyText (key : List UInt8) : checkKey (String.ofList (Session.keyText key)) = .ok () := by
  have first : Pem.first (String.ofList (Session.keyText key)).toList = .ok ⟨"PRIVATE KEY", key⟩ := by
    rw [String.toList_ofList]
    exact Pem.first_blockText (by decide) key
  exact checkKey_of_label first (show keyLabel.isSuffixOf "PRIVATE KEY".toList = true by decide)

end IdentityCertificate

end EntitlementClient
