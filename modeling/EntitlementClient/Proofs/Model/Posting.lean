/-
What the client posts and what the server answers with are laid out by schemas of their own. They agree: the
text that is posted for something new is decoded as the server's description of it, in which every part of what
was posted stands in the field that is meant for it, and no other field is filled.
-/
import EntitlementClient.Operation
import EntitlementClient.Proofs.Model.Catalogue

namespace EntitlementClient

open EntitlementClient.Http EntitlementClient.Json EntitlementClient.Schema

namespace Schema

/-! ## Fields by their names -/

/-- Whether every field of a row is what the members of its name stand for. -/
def Fields.Found : {β : Type} → Fields β → List (String × Json) → β → Prop
  | _, .nil, _, _ => True
  | _, .cons field rest, members, row =>
    soleValue field.absent.toOption field.ofJson (valuesOf field.name.wire members) = some row.1 ∧
      rest.Found members row.2

/-- Members of another name do not matter. -/
theorem Fields.Found.filter : {β : Type} → {fields : Fields β} → {members : List (String × Json)} → {row : β} →
    {name : String} → name ∉ fields.wireNames → fields.Found members row →
      fields.Found (members.filter fun m => m.1 ≠ name) row
  | _, .nil, _, _, _, _, _ => trivial
  | _, .cons field rest, members, row, name, fresh, found => by
    obtain ⟨own, others⟩ := found
    obtain ⟨ne, fresh⟩ := not_or.1 (mt List.mem_cons.2 fresh)
    refine ⟨?_, filter fresh others⟩
    have kept : valuesOf field.name.wire (members.filter fun m => m.1 ≠ name) = valuesOf field.name.wire members := by
      simp [valuesOf_filter, Ne.symm ne]
    rw [kept, own]

theorem Fields.ofMembers_of_found : {β : Type} → {fields : Fields β} → fields.Lawful →
    {members : List (String × Json)} →
    {row : β} → fields.Found members row → fields.ofMembers members = some row
  | _, .nil, _, _, _, _ => rfl
  | _, .cons field rest, lawful, members, row, found => by
    obtain ⟨fresh, -, lawful⟩ := lawful
    obtain ⟨own, others⟩ := found
    rw [Fields.ofMembers, own, ofMembers_of_found lawful (others.filter fresh)]
    rfl

/-- An object stands for the record whose fields are found in it. -/
theorem Shape.ofJson_of_found {α β : Type} {model : String} {fields : Fields β} {form : Form α β}
    (lawful : (Shape.record model fields form).Lawful) {members : List (String × Json)} {a : α}
    (found : fields.Found members (form.fields a)) :
    (Shape.record model fields form).ofJson (.object members) = some a := by
  rw [Shape.ofJson, Fields.ofMembers_of_found lawful found, Option.map_some, form.ofFields_fields]

/-- A number in a field that may be absent. -/
theorem soleValue_signed (name : FieldName) (n : Int64) :
    soleValue (some none) (Field.optional name .signed).ofJson [Shape.signed.encode n] = some (some n) :=
  Field.soleValue_encode (.optional name .signed) trivial (some n) ⟨Json.noConfusion, trivial⟩

end Schema

/-! ## What is posted -/

/-- Something that is posted to be created, and what the server answers with. -/
inductive Posting : Type → Type → Type
  | owner : Posting NewOwner Owner
  | consumerType : Posting NewConsumerType ConsumerType
  | consumer : Posting NewConsumer Consumer
  | content : Posting NewContent Content
  | pool : Posting PoolRequest Pool
  | user : Posting NewUser User
  | product : Posting NewProduct Product

namespace Posting

variable {α β : Type}

/-- The JSON value of what is posted. -/
def encode : {α β : Type} → Posting β α → β → Json
  | _, _, owner, new => NewOwner.shape.encode new
  | _, _, consumerType, new => NewConsumerType.shape.encode new
  | _, _, consumer, new => NewConsumer.shape.encode new
  | _, _, content, new => NewContent.shape.encode new
  | _, _, pool, new => PoolRequest.shape.encode new
  | _, _, user, new => NewUser.shape.encode new
  | _, _, product, new => Product.shape.encode new.toProduct

/-- The text that is posted. -/
def text (posting : Posting β α) (new : β) : String :=
  (posting.encode new).sorted.render

/-- How the answer is laid out in JSON. -/
def answer : {α β : Type} → Posting β α → Shape α
  | _, _, owner => Owner.shape
  | _, _, consumerType => ConsumerType.shape
  | _, _, consumer => Consumer.shape
  | _, _, content => Content.shape
  | _, _, pool => Pool.shape
  | _, _, user => User.shape
  | _, _, product => Product.shape

/-- What the server says of what was posted if it adds nothing to it. Of a user it does not tell the password. -/
def described : {α β : Type} → Posting β α → β → α
  | _, _, owner, new => { key := some new.key, displayName := some new.displayName }
  | _, _, consumerType, new => { label := some new.label }
  | _, _, consumer, new => { type := some { label := some new.type.label }, name := some new.name, uuid := new.uuid }
  | _, _, content, new =>
    { name := some new.name, hash := some new.hash, label := some new.label, type := some new.type
      vendor := some new.vendor, contentUrl := some new.contentUrl, gpgUrl := some new.gpgUrl }
  | _, _, pool, new =>
    { activeSubscription := some new.activeSubscription, subscriptionId := some new.subscriptionId
      quantity := some new.quantity, consumed := some new.consumed
      startDate := some (String.ofList new.startDate.text), endDate := some (String.ofList new.endDate.text)
      productId := some new.productId, owner := some new.owner }
  | _, _, user, new => { login := some new.login }
  | _, _, product, new => new.toProduct

/-! ## Agreement -/

theorem lawful (posting : Posting β α) : posting.answer.Lawful := by
  cases posting with
  | owner => exact Model.lawful .owner
  | consumerType => exact Model.lawful .consumerType
  | consumer => exact Model.lawful .consumer
  | content => exact Model.lawful .content
  | pool => exact Model.lawful .pool
  | user => exact Model.lawful .user
  | product => exact Model.lawful .product

/-- A product to be created is one that comes back from its text. -/
theorem normal_toProduct (new : NewProduct) : Product.shape.Normal new.toProduct := by
  have texts : ∀ s : String, Shape.text.encode s ≠ .null ∧ Shape.text.Proper s := fun s => ⟨Json.noConfusion, trivial⟩
  -- nothing but the attributes nests, and there are no numbers in them
  have each : ∀ json ∈ new.toProduct.attributes.map ProductAttribute.shape.encode,
      json.integral = true ∧ json.depth ≤ 1 := by
    intro json mem
    obtain ⟨a, -, rfl⟩ := List.mem_map.1 mem
    exact ⟨rfl, Nat.le_of_ble_eq_true rfl⟩
  have integral : itemsIntegral (new.toProduct.attributes.map ProductAttribute.shape.encode) = true :=
    itemsIntegral_iff.2 fun json mem => (each json mem).1
  have shallow : itemsDepth (new.toProduct.attributes.map ProductAttribute.shape.encode) ≤ 1 :=
    itemsDepth_le.2 fun json mem => (each json mem).2
  have posted : Product.shape.encode new.toProduct = .object
      [("id", .text new.label), ("name", .text new.name), ("label", .text new.label), ("hash", .text new.hash),
        ("arch", .text new.arch), ("version", .text new.version), ("variant", .text new.variant),
        ("type", .text new.type),
        ("attributes", .array (new.toProduct.attributes.map ProductAttribute.shape.encode))] := rfl
  refine ⟨?_, ?_, ?_⟩
  · exact ⟨texts _, texts _, texts _, texts _, texts _, texts _, texts _, texts _,
      fun a _ => ⟨trivial, trivial, trivial⟩, fun a mem => absurd mem List.not_mem_nil, trivial⟩
  · rw [posted]
    simp only [Json.integral, membersIntegral, integral, Bool.and_self]
  · rw [posted, depthLimit]
    simp only [depth, membersDepth]
    omega

/-- The value that is posted stands for its description. -/
theorem ofJson_encode (posting : Posting β α) (new : β) :
    posting.answer.ofJson (posting.encode new) = some (posting.described new) := by
  have lawful := posting.lawful
  cases posting with
  | owner => exact Shape.ofJson_of_found lawful ⟨rfl, rfl, rfl, trivial⟩
  | consumerType => exact Shape.ofJson_of_found lawful ⟨rfl, rfl, trivial⟩
  | consumer =>
    -- a uuid may be left to the server
    obtain ⟨type, name, _ | uuid⟩ := new
    · exact Shape.ofJson_of_found lawful ⟨rfl, rfl, rfl, rfl, rfl, rfl, rfl, trivial⟩
    · exact Shape.ofJson_of_found lawful ⟨rfl, rfl, rfl, rfl, rfl, rfl, rfl, trivial⟩
  | content => exact Shape.ofJson_of_found lawful ⟨rfl, rfl, rfl, rfl, rfl, rfl, rfl, rfl, trivial⟩
  | pool =>
    exact Shape.ofJson_of_found lawful ⟨rfl, rfl, rfl, soleValue_signed _ _, soleValue_signed _ _, rfl, rfl,
      rfl, rfl, rfl, trivial⟩
  | user => exact Shape.ofJson_of_found lawful ⟨rfl, rfl, rfl, trivial⟩
  | product => exact Product.shape.ofJson_encode lawful _ (normal_toProduct new).proper

theorem integral_encode (posting : Posting β α) (new : β) : (posting.encode new).integral = true := by
  cases posting with
  | owner | consumerType | content | pool | user => rfl
  | consumer => obtain ⟨type, name, _ | uuid⟩ := new <;> rfl
  | product => exact (normal_toProduct new).integral

theorem depth_encode_le (posting : Posting β α) (new : β) : (posting.encode new).depth ≤ depthLimit := by
  cases posting with
  | owner | consumerType | content | pool | user => exact Nat.le_of_ble_eq_true rfl
  | consumer => obtain ⟨type, name, _ | uuid⟩ := new <;> exact Nat.le_of_ble_eq_true rfl
  | product => exact (normal_toProduct new).depth_le

/-- The text that is posted is decoded as the description of what was posted. -/
theorem decode_text (posting : Posting β α) (new : β) :
    posting.answer.decode (posting.text new).toList = .ok (posting.described new) :=
  Shape.decode_write (integral_sorted (posting.integral_encode new))
    (Nat.le_trans (depth_sorted_le _) (posting.depth_encode_le new))
    (posting.answer.ofJson_sorted (posting.ofJson_encode new))

end Posting

/-! ## Operations that post -/

/-- Something new that an operation posts. -/
structure Posted (α : Type) : Type 1 where
  {Body : Type}
  posting : Posting Body α
  new : Body

/-- What an operation posts to be created, if the server answers with a description of it. -/
def Operation.posted? : {α : Type} → Operation α → Option (Posted α)
  | _, createOwner name => some ⟨.owner, .named name⟩
  | _, createUser _ login password => some ⟨.user, ⟨login, password⟩⟩
  | _, createConsumerType label => some ⟨.consumerType, ⟨label⟩⟩
  | _, register name type uuid => some ⟨.consumer, newConsumer name type uuid⟩
  | _, createPool pool => some ⟨.pool, pool⟩
  | _, createProduct product => some ⟨.product, product⟩
  | _, createContent content => some ⟨.content, content⟩
  | _, _ => none

namespace Posted

variable {α : Type}

/-- The text of the body that an operation sends is that of what it posts. -/
theorem encodedBody_eq {operation : Operation α} {posted : Posted α} (h : operation.posted? = some posted) :
    operation.request.encodedBody = some (posted.posting.text posted.new) := by
  cases operation <;> cases h <;> rfl

/-- An operation reads the answer by the schema of what it posts. -/
theorem read_eq {operation : Operation α} {posted : Posted α} (h : operation.posted? = some posted)
    (response : Response) (path : String) :
    operation.answer.read response path = response.decode posted.posting.answer path := by
  cases operation <;> cases h <;> rfl

end Posted

/-- Whatever is posted to be created is decoded as its description by the schema of the answer. The operations
that post it send this text, as JSON, and read an answer of the same text as the description. -/
theorem posted_described :
    (∀ {α β : Type} (posting : Posting β α) (new : β),
      posting.answer.decode (posting.text new).toList = .ok (posting.described new)) ∧
    ∀ {α : Type} (operation : Operation α) (posted : Posted α), operation.posted? = some posted →
      operation.request.bodyType = some .json ∧
      operation.request.encodedBody = some (posted.posting.text posted.new) ∧
      ∀ response : Response, response.body = posted.posting.text posted.new →
        operation.answer.read response operation.request.path = .ok (posted.posting.described posted.new) := by
  refine ⟨Posting.decode_text, fun operation posted h => ⟨?_, Posted.encodedBody_eq h, fun response echoed => ?_⟩⟩
  · cases operation <;> cases h <;> rfl
  · rw [Posted.read_eq h, Response.decode, echoed, Posting.decode_text]

/-- A pool that starts before the year one and ends in a year of six digits is described by the texts of both
dates, and a user without the password. -/
theorem posted_described_pool : ∃ pool : PoolRequest,
    pool.startDate.year = -44 ∧ pool.endDate.year = 123456 ∧
      (Posting.pool.described pool).startDate = some "-0044-03-15" ∧
      (Posting.pool.described pool).endDate = some "+123456-12-31" ∧
      (Operation.createPool pool).request.encodedBody = some (Posting.pool.text pool) ∧
      Pool.shape.decode (Posting.pool.text pool).toList = .ok (Posting.pool.described pool) ∧
      (Operation.createUser "acme" "bill" "redhat").answer.read ⟨200, .empty, Posting.user.text ⟨"bill", "redhat"⟩⟩
        (Operation.createUser "acme" "bill" "redhat").request.path = .ok { login := some "bill" } := by
  obtain ⟨-, sent, -⟩ := posted_described.2
    (.createPool ⟨false, "sub-9", -1, 0, ⟨-44, 3, 15, by decide⟩, ⟨123456, 12, 31, by decide⟩, "rhel", ⟨"acme"⟩⟩) _ rfl
  obtain ⟨-, -, read⟩ := posted_described.2 (.createUser "acme" "bill" "redhat") _ rfl
  exact ⟨_, rfl, rfl, rfl, rfl, sent, posted_described.1 .pool _, read _ rfl⟩

end EntitlementClient
