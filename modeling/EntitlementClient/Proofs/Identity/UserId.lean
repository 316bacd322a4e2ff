/-
The consumer that a certificate stands for: the first user id among the attributes of its subject, read through
all groups, that is a text. All other attributes, their order and the groups do not matter; and the certificate
is read before the key, whatever the key is.
-/
import EntitlementClient.Proofs.Identity.ObjectId
import EntitlementClient.Proofs.Identity.Subject
import EntitlementClient.Proofs.Text.Utf8
import Mathlib.Logic.Relation

namespace EntitlementClient

open EntitlementClient.Text

/-! ## Attributes -/

namespace Attribute

/-- Whether an attribute tells a user id: by its type, and by a value of one of the string types UTF-8, numeric,
printable and IA5 that holds the bytes of the text. -/
structure Tells (a : Attribute) (uuid : String) : Prop where
  type : ObjectId.text a.type = "0.9.2342.19200300.100.1.1"
  tag : a.tag ∈ [12, 18, 19, 22]
  value : a.value = Utf8.encode uuid.toList

/-- Whether an attribute tells none: one of another type, or one whose value is no text. -/
def Silent (a : Attribute) : Prop :=
  ∀ uuid, ¬a.Tells uuid

/-- The user id that an attribute tells. -/
def told? (a : Attribute) : Option String :=
  if a.isUserId then a.plainText? else none

theorem isUserId_iff (a : Attribute) : a.isUserId = true ↔ ObjectId.text a.type = "0.9.2342.19200300.100.1.1" := by
  rw [isUserId, beq_iff_eq, ObjectId.text_eq_userId_iff]

theorem plainText?_eq_some_iff {a : Attribute} {s : String} :
    a.plainText? = some s ↔ a.tag ∈ [12, 18, 19, 22] ∧ a.value = Utf8.encode s.toList := by
  unfold plainText?
  constructor
  · intro h
    split at h
    · next tag =>
      obtain ⟨chars, decoded, rfl⟩ := Option.map_eq_some_iff.1 h
      refine ⟨List.contains_iff_mem.1 tag, ?_⟩
      rw [String.toList_ofList]
      exact Utf8.decode?_eq_some_iff.1 decoded
    · cases h
  · rintro ⟨tag, value⟩
    rw [if_pos (List.contains_iff_mem.2 tag), value, Utf8.decode?_encode, Option.map_some, String.ofList_toList]

theorem told?_eq_some_iff {a : Attribute} {uuid : String} : a.told? = some uuid ↔ a.Tells uuid := by
  unfold told?
  constructor
  · intro h
    split at h
    · next is =>
      obtain ⟨tag, value⟩ := plainText?_eq_some_iff.1 h
      exact ⟨a.isUserId_iff.1 is, tag, value⟩
    · cases h
  · rintro ⟨type, tag, value⟩
    rw [if_pos (a.isUserId_iff.2 type)]
    exact plainText?_eq_some_iff.2 ⟨tag, value⟩

theorem told?_eq_none_iff {a : Attribute} : a.told? = none ↔ a.Silent := by
  simp only [Silent, ← told?_eq_some_iff, Option.eq_none_iff_forall_ne_some, Ne]

end Attribute

/-! ## Names -/

namespace Name

/-- Whether a text is the user id of a name: the first one that is told, whatever the groups are. -/
def Tells (name : Name) (uuid : String) : Prop :=
  ∃ before a after, name.flatten = before ++ a :: after ∧ (∀ b ∈ before, b.Silent) ∧ a.Tells uuid

theorem userId?_eq_some_iff {name : Name} {uuid : String} : name.userId? = some uuid ↔ name.Tells uuid := by
  show name.flatten.findSome? Attribute.told? = some uuid ↔ _
  rw [List.findSome?_eq_some_iff]
  constructor
  · rintro ⟨before, a, after, split, told, silent⟩
    exact ⟨before, a, after, split,
      fun b hb => Attribute.told?_eq_none_iff.1 (silent b hb), Attribute.told?_eq_some_iff.1 told⟩
  · rintro ⟨before, a, after, split, silent, tells⟩
    exact ⟨before, a, after, split, Attribute.told?_eq_some_iff.2 tells,
      fun b hb => Attribute.told?_eq_none_iff.2 (silent b hb)⟩

/-- A name has one user id at most. -/
theorem Tells.unique {name : Name} {uuid uuid' : String} (h : name.Tells uuid) (h' : name.Tells uuid') :
    uuid = uuid' := by
  have first := userId?_eq_some_iff.2 h
  rw [userId?_eq_some_iff.2 h'] at first
  exact (Option.some.inj first).symm

/-- One change of a name that leaves the attributes with a user id as they are, and in their order: other groups, a
silent attribute that comes or goes, or two neighbours, one of them silent, that change places. -/
inductive Edit : Name → Name → Prop
  | regroup {name name' : Name} (same : name.flatten = name'.flatten) : Edit name name'
  | insert {name name' : Name} {before after : List Attribute} {a : Attribute} (silent : a.Silent)
    (split : name.flatten = before ++ after) (split' : name'.flatten = before ++ a :: after) : Edit name name'
  | delete {name name' : Name} {before after : List Attribute} {a : Attribute} (silent : a.Silent)
    (split : name.flatten = before ++ a :: after) (split' : name'.flatten = before ++ after) : Edit name name'
  | swap {name name' : Name} {before after : List Attribute} {a b : Attribute} (silent : a.Silent ∨ b.Silent)
    (split : name.flatten = before ++ a :: b :: after) (split' : name'.flatten = before ++ b :: a :: after) :
    Edit name name'

/-- A name with another one that any number of such changes lead to. -/
def Edited : Name → Name → Prop :=
  Relation.ReflTransGen Edit

/-- All user ids that are told. -/
def told (name : Name) : List String :=
  name.flatten.filterMap Attribute.told?

/-- The first of them counts. -/
theorem userId?_eq_head?_told (name : Name) : name.userId? = name.told.head? :=
  List.head?_filterMap.symm

theorem filterMap_told?_insert {a : Attribute} (silent : a.Silent) (before after : List Attribute) :
    (before ++ a :: after).filterMap Attribute.told? = (before ++ after).filterMap Attribute.told? := by
  rw [List.filterMap_append, List.filterMap_append, List.filterMap_cons_none (Attribute.told?_eq_none_iff.2 silent)]

theorem Edit.told_eq {name name' : Name} (h : Edit name name') : name.told = name'.told := by
  unfold told
  cases h with
  | regroup same => rw [same]
  | insert silent split split' => rw [split, split', filterMap_told?_insert silent]
  | delete silent split split' => rw [split, split', filterMap_told?_insert silent]
  | @swap before after a b silent split split' =>
    rw [split, split']
    -- the silent one of the two can be taken away from both sides
    rcases silent with silent | silent
    · have moved := filterMap_told?_insert silent (before ++ [b]) after
      rw [List.append_assoc, List.append_assoc] at moved
      rw [filterMap_told?_insert silent]
      exact moved.symm
    · have moved := filterMap_told?_insert silent (before ++ [a]) after
      rw [List.append_assoc, List.append_assoc] at moved
      rw [filterMap_told?_insert silent]
      exact moved

/-- Changes of this kind tell the same user id. -/
theorem Edited.userId?_eq {name name' : Name} (h : name.Edited name') : name.userId? = name'.userId? := by
  induction h with
  | refl => rfl
  | tail _ step ih => rw [ih, userId?_eq_head?_told, userId?_eq_head?_told, step.told_eq]

end Name

/-! ## Identities -/

namespace IdentityCertificate

variable {certificate certificate' key : String}

theorem result_load (certificate key : String) : (load certificate key).result = read certificate key := by
  unfold load
  rw [Traced.result_bind, Traced.result_ofExcept]
  cases read certificate key <;> rfl

theorem logLines_load {identity : IdentityCertificate} (h : read certificate key = .ok identity) :
    (load certificate key).logLines = [.identityLoaded identity.uuid] := by
  simp [load, h]

/-- Whether what is made of a certificate and a key is what their parts tell: first the certificate, then its user
id, and then the key. -/
structure Loads (certificate key : String) : Prop where
  refused : ∀ e, readSubject certificate = .error e → (load certificate key).result = .error e
  missing : ∀ subject, readSubject certificate = .ok subject → (∀ uuid, subject.Tells uuid → uuid = "") →
    (load certificate key).result = .error (.missingUid subject.shown)
  keyRefused : ∀ subject uuid e, readSubject certificate = .ok subject → subject.Tells uuid → uuid ≠ "" →
    checkKey key = .error e → (load certificate key).result = .error e
  identified : ∀ subject uuid, readSubject certificate = .ok subject → subject.Tells uuid → uuid ≠ "" →
    checkKey key = .ok () → ∃ identity, (load certificate key).result = .ok identity ∧ identity.uuid = uuid ∧
      identity.subject = subject.shown ∧ identity.certificatePem = certificate ∧ identity.keyPem = key ∧
      (load certificate key).logLines = [.identityLoaded uuid]

theorem read_of_readSubject_error {e : ClientError} (h : readSubject certificate = .error e) (key : String) :
    read certificate key = .error e := by
  simp only [read, h, bind, Except.bind]

theorem read_of_missing {subject : Name} (h : readSubject certificate = .ok subject)
    (missing : ∀ uuid, subject.Tells uuid → uuid = "") (key : String) :
    read certificate key = .error (.missingUid subject.shown) := by
  simp only [read, h, bind, Except.bind]
  cases found : subject.userId? with
  | none => rfl
  | some uuid => exact dif_pos (missing uuid (Name.userId?_eq_some_iff.1 found))

theorem read_of_checkKey_error {subject : Name} {uuid : String} {e : ClientError}
    (h : readSubject certificate = .ok subject) (tells : subject.Tells uuid)
    (ne : uuid ≠ "") (refused : checkKey key = .error e) :
    read certificate key = .error e := by
  simp only [read, h, bind, Except.bind, Name.userId?_eq_some_iff.2 tells, refused]
  exact dif_neg ne

theorem loads (certificate key : String) : Loads certificate key where
  refused e h := by
    rw [result_load]
    exact read_of_readSubject_error h key
  missing subject h missing := by
    rw [result_load]
    exact read_of_missing h missing key
  keyRefused subject uuid e h tells ne refused := by
    rw [result_load]
    exact read_of_checkKey_error h tells ne refused
  identified subject uuid h tells ne accepted := by
    have identity := read_eq h (Name.userId?_eq_some_iff.2 tells) ne accepted
    exact ⟨_, (result_load certificate key).trans identity, rfl, rfl, rfl, rfl, logLines_load identity⟩

/-- A uuid is read if and only if the subject tells it and the key is accepted. -/
theorem exists_load_iff {subject : Name} (h : readSubject certificate = .ok subject) (key uuid : String) :
    (∃ identity, (load certificate key).result = .ok identity ∧ identity.uuid = uuid) ↔
      subject.userId? = some uuid ∧ uuid ≠ "" ∧ checkKey key = .ok () := by
  constructor
  · rintro ⟨identity, loaded, rfl⟩
    rw [result_load] at loaded
    obtain ⟨subject', h', told, accepted, -⟩ := read_ok loaded
    cases h.symm.trans h'
    exact ⟨told, identity.uuid_ne_empty, accepted⟩
  · rintro ⟨told, ne, accepted⟩
    exact ⟨_, (result_load certificate key).trans (read_eq h told ne accepted), rfl⟩

end IdentityCertificate

/-! ## Credentials -/

namespace Credentials

open IdentityCertificate

/-- The credentials of a configuration stand for the consumer that their own certificate tells. -/
theorem tells_of_build {settings : List Config.Setting} {config : Config} {identity : IdentityCertificate}
    (built : (Draft.ofSettings settings).build.result = .ok config) (is : config.credentials = .certificate identity) :
    ∃ subject, readSubject identity.certificatePem = .ok subject ∧ subject.Tells identity.uuid := by
  obtain ⟨⟨choice, authenticates, chosen⟩, -, -⟩ := Draft.build_ok built
  rcases authenticates.credentials_ok chosen with ⟨name, password, -, -, eq⟩ | ⟨certificate, key, own, -, -, read, eq⟩
  · rw [is] at eq
    cases eq
  · cases is.symm.trans eq
    obtain ⟨subject, subjectOf, told, -, rfl, -, -⟩ := read_ok read
    exact ⟨subject, subjectOf, Name.userId?_eq_some_iff.1 told⟩

/-- Every name is the subject of a certificate. The identity of a certificate is the first user id of its subject
that is a text, if that is not empty; what is wrong with the certificate is told before the key is looked at, and
changes of a subject that leave its user ids as they are change nothing. Credentials with a certificate always have
a uuid. -/
theorem identified :
    (∀ subject : Name, subject.Writable → (Certificate.ofSubject subject).content.length < 0x10000000000000000 →
      readSubject (textOfSubject subject) = .ok subject) ∧
    (∀ certificate key, Loads certificate key) ∧
    (∀ certificate certificate' subject subject', readSubject certificate = .ok subject →
      readSubject certificate' = .ok subject' → subject.Edited subject' → ∀ key uuid,
        (∃ identity, (load certificate key).result = .ok identity ∧ identity.uuid = uuid) ↔
          ∃ identity, (load certificate' key).result = .ok identity ∧ identity.uuid = uuid) ∧
    (∀ identity, ∃ uuid, (Credentials.certificate identity).uuid? = some uuid ∧ uuid ≠ "") ∧
    ∀ settings config identity, (Draft.ofSettings settings).build.result = .ok config →
      config.credentials = .certificate identity →
        ∃ subject, readSubject identity.certificatePem = .ok subject ∧ subject.Tells identity.uuid := by
  refine ⟨fun _ => readSubject_textOfSubject, loads, ?_, ?_, ?_⟩
  · intro certificate certificate' subject subject' h h' edited key uuid
    rw [exists_load_iff h, exists_load_iff h', edited.userId?_eq]
  · intro identity
    exact ⟨identity.uuid, rfl, identity.uuid_ne_empty⟩
  · intro settings config identity built is
    exact tells_of_build built is

/-- The common name of a machine. -/
def boxName : Attribute :=
  ⟨[0x55, 0x04, 0x03], 12, [0x62, 0x6F, 0x78]⟩

/-- The user id of a consumer. -/
def consumerId : Attribute :=
  ⟨[0x09, 0x92, 0x26, 0x89, 0x93, 0xF2, 0x2C, 0x64, 0x01, 0x01], 12, [0x61, 0x62, 0x63, 0x2D, 0x31]⟩

/-- In groups of their own and in either order they stand for one consumer. -/
theorem identified_swapped :
    (∃ identity,
      (load (textOfSubject [[boxName], [consumerId]]) (String.ofList (Session.keyText Session.sampleKey))).result =
      .ok identity ∧ identity.uuid = "abc-1") ∧
    ∃ identity,
      (load (textOfSubject [[consumerId], [boxName]]) (String.ofList (Session.keyText Session.sampleKey))).result =
      .ok identity ∧ identity.uuid = "abc-1" := by
  have silent : boxName.Silent := Attribute.told?_eq_none_iff.1 (by decide +kernel)
  have tells : consumerId.Tells "abc-1" := Attribute.told?_eq_some_iff.1 (by decide +kernel)
  have split : List.flatten [[boxName], [consumerId]] = [] ++ boxName :: consumerId :: [] := rfl
  have edited : Name.Edited [[boxName], [consumerId]] [[consumerId], [boxName]] :=
    .single (.swap (.inl silent) split rfl)
  obtain ⟨written, loads, same, -, -⟩ := identified
  have plain := written [[boxName], [consumerId]] ⟨by decide, by decide⟩ (by decide +kernel)
  have swapped := written [[consumerId], [boxName]] ⟨by decide, by decide⟩ (by decide +kernel)
  obtain ⟨identity, loaded, uuid, -⟩ := (loads _ _).identified _ "abc-1" plain
    ⟨[boxName], consumerId, [], rfl, by simp [silent], tells⟩ (by decide) (checkKey_keyText Session.sampleKey)
  exact ⟨⟨identity, loaded, uuid⟩, (same _ _ _ _ plain swapped edited _ _).1 ⟨identity, loaded, uuid⟩⟩

end Credentials

end EntitlementClient
