/-
Subscriptions and tokens are read and posted again with all members that the client does not model. Only
of the references in them nothing is kept but the id.
-/
import EntitlementClient.Operation
import EntitlementClient.Proofs.Model.Catalogue
import EntitlementClient.Proofs.Schema.Carriage

namespace EntitlementClient

open EntitlementClient.Json EntitlementClient.Schema

/-! ## References -/

namespace Json

/-- What is kept of a reference: its id, which may also stand in a list. -/
def reference : Json → Json
  | .object members => .object (members.filter fun m => m.1 = "id")
  | .array items => .object (items.map fun json => ("id", json))
  | json => json

/-- Whether a value is neither a list nor has a member besides its id. -/
def Bare : Json → Prop
  | .object members => ∀ m ∈ members, m.1 = "id"
  | .array _ => False
  | _ => True

instance : (json : Json) → Decidable json.Bare
  | .object members => inferInstanceAs (Decidable (∀ m ∈ members, m.1 = "id"))
  | .array _ => isFalse id
  | .null | .bool _ | .number _ | .text _ => isTrue trivial

theorem reference_eq_self {json : Json} : json.reference = json ↔ json.Bare := by
  cases json with
  | null | bool | number | text => exact iff_of_true rfl trivial
  | array items => exact iff_of_false (fun h => nomatch h) id
  | object members => simp [reference, Bare, List.filter_eq_self]

/-- References are kept by their ids, all other members as they are. -/
def carry (references : List String) (name : String) (json : Json) : Json :=
  if name ∈ references then json.reference else json

theorem carry_eq_self {references : List String} {name : String} {json : Json} :
    carry references name json = json ↔ (name ∈ references → json.Bare) := by
  unfold carry
  split
  · next mem => simp [mem, reference_eq_self]
  · next mem => simp [mem]

theorem carry_eq_id {references names : List String} (known : ∀ name ∈ references, name ∈ names) {name : String}
    (h : name ∉ names) : carry references name = id :=
  funext fun _ => if_neg fun mem => h (known name mem)

/-- All members are kept as they are if and only if the references among them are bare. -/
theorem map_carry_eq_self {references names : List String} {members : List (String × Json)} :
    (withoutNulls names members).map (fun m => (m.1, carry references m.1 m.2)) = withoutNulls names members ↔
      ∀ m ∈ members, m.1 ∈ references → m.2.Bare := by
  constructor
  · intro same m mem
    by_cases null : m.2 = .null
    · intro _
      rw [null]
      trivial
    · have kept : m ∈ withoutNulls names members := List.mem_filter.2 ⟨mem, by simp [isNull_eq_false.2 null]⟩
      have fixed := List.map_inj_left.1 (same.trans (List.map_id _).symm) m kept
      exact carry_eq_self.1 (congrArg Prod.snd fixed)
  · intro bare
    refine (List.map_congr_left fun m hm => ?_).trans (List.map_id _)
    exact Prod.ext rfl (carry_eq_self.2 (bare m (List.mem_filter.1 hm).1))

end Json

namespace Schema

variable {α : Type} {references : List String}

/-- A record that is an id and nothing else keeps the id of what it has been decoded from. -/
theorem Shape.encode_of_ofJson_reference {model : String} {form : Form α (String × Unit)} {json : Json} {a : α}
    (h : (Shape.record model (.cons (.required (.plain "id") .text) .nil) form).ofJson json = some a) :
    (Shape.record model (.cons (.required (.plain "id") .text) .nil) form).encode a = json.reference := by
  rw [Shape.ofJson_record] at h
  obtain ⟨items, rfl, h⟩ | ⟨members, rfl, h⟩ := exists_of_ofBrackets_eq_some h
  · obtain ⟨row, found, rfl⟩ := Option.map_eq_some_iff.1 h
    rw [Shape.encode, form.fields_ofFields]
    match items, found with
    | [item], found =>
      obtain ⟨id, value, found⟩ := Option.bind_eq_some_iff.1 found
      cases found
      rw [← Shape.encode_of_ofJson_text value]
      rfl
    | _ :: _ :: _, found =>
      obtain ⟨id, value, found⟩ := Option.bind_eq_some_iff.1 found
      cases found
  · obtain ⟨row, found, rfl⟩ := Option.map_eq_some_iff.1 h
    rw [Shape.encode, form.fields_ofFields]
    obtain ⟨id, own, found⟩ := Option.bind_eq_some_iff.1 found
    cases found
    match values : valuesOf "id" members, own with
    | [item], own =>
      rw [reference, filter_eq_map_valuesOf, values, ← Shape.encode_of_ofJson_text own]
      rfl

theorem Field.Carries.reference (name : FieldName) {model : String} {form : Form α (String × Unit)}
    (mem : name.wire ∈ references) :
    (Field.optional name (.record model (.cons (.required (.plain "id") .text) .nil) form)).Carries
      (carry references name.wire) := by
  refine .optional name (fun h => ?_) fun a => ?_
  · rw [Shape.encode_of_ofJson_reference h, carry, if_pos mem]
  · rfl

theorem Field.Carries.text (name : FieldName) (fresh : name.wire ∉ references) :
    (Field.optional name .text).Carries (carry references name.wire) := by
  refine .optional name (fun h => ?_) fun a => rfl
  rw [Shape.encode_of_ofJson_text h, carry, if_neg fresh]

theorem Field.Carries.signed (name : FieldName) (fresh : name.wire ∉ references) :
    (Field.optional name .signed).Carries (carry references name.wire) := by
  refine .optional name (fun h => ?_) fun a => rfl
  rw [Shape.encode_of_ofJson_signed h, carry, if_neg fresh]

end Schema

/-! ## Subscriptions and tokens -/

/-- The models that keep the members that are no fields. -/
inductive Carrier
  | subscription
  | token

namespace Carrier

/-- The model of a carrier. -/
def model : Carrier → Model
  | subscription => .subscription
  | token => .subscriptionToken

/-- The fields that refer to something by its id. -/
def references : Carrier → List String
  | subscription => ["owner", "product"]
  | token => ["subscription"]

/-- The members of a value that are not modelled. -/
def extra : (carrier : Carrier) → carrier.model.Value → NameMap Json
  | subscription, v => Subscription.extra v
  | token, v => SubscriptionToken.extra v

/-- The operation that posts a value. -/
def create : (carrier : Carrier) → String → carrier.model.Value → Operation carrier.model.Value
  | subscription, owner, v => .createSubscription owner v
  | token, _, v => .createSubscriptionToken v

theorem body?_create (carrier : Carrier) (owner : String) (v : carrier.model.Value) :
    (carrier.create owner v).body? = some (carrier.model.shape.document v, .json) := by
  cases carrier <;> rfl

variable {body : String} {json : Json}

/-- What is posted for a decoded value is what it has been decoded from, with the references kept by their
ids. -/
theorem document_of_decode (carrier : Carrier) {v : carrier.model.Value}
    (read : Shape.json.decode body.toList = .ok json) (decoded : carrier.model.shape.decode body.toList = .ok v) :
    ∃ members, json = .object members ∧ carrier.model.shape.document v =
      .object ((withoutNulls carrier.model.shape.wireNames members).map
        fun m => (m.1, carry carrier.references m.1 m.2)) := by
  have lawful := carrier.model.lawful
  cases carrier with
  | subscription =>
    refine Shape.document_of_decode lawful ?_ (fun _ => carry_eq_id (by decide)) read decoded
    exact ⟨.text _ (by decide), .reference _ (by decide), .reference _ (by decide), .signed _ (by decide),
      .text _ (by decide), .text _ (by decide), .text _ (by decide), .text _ (by decide), trivial⟩
  | token =>
    refine Shape.document_of_decode lawful ?_ (fun _ => carry_eq_id (by decide)) read decoded
    exact ⟨.text _ (by decide), .text _ (by decide), .reference _ (by decide), trivial⟩

/-- What is posted for a decoded value is all that it has been decoded from, null in the fields apart, if and
only if no reference in it has a member besides its id or is a list. -/
theorem create_decoded (carrier : Carrier) {v : carrier.model.Value} (read : Shape.json.decode body.toList = .ok json)
    (decoded : carrier.model.shape.decode body.toList = .ok v) (owner : String) :
    ∃ members, json = .object members ∧
      (carrier.create owner v).body? = some (.object ((withoutNulls carrier.model.shape.wireNames members).map
        fun m => (m.1, carry carrier.references m.1 m.2)), .json) ∧
      ((carrier.create owner v).body? = some (.object (withoutNulls carrier.model.shape.wireNames members), .json) ↔
        ∀ m ∈ members, m.1 ∈ carrier.references → m.2.Bare) := by
  obtain ⟨members, rfl, posted⟩ := carrier.document_of_decode read decoded
  rw [body?_create, posted]
  refine ⟨members, rfl, rfl, ?_⟩
  simpa using map_carry_eq_self

/-- A member that is not modelled is posted again, whatever it holds, and the quantity that is null is not. -/
theorem create_decoded_modified :
    ∃ v : Subscription,
      Subscription.shape.decode (Json.object [("modified", .array [.object [("by", .null)]]),
        ("owner", .object [("id", .text "o")]), ("quantity", .null)]).render.toList = .ok v ∧
      (Carrier.subscription.create "acme" v).body? = some (.object [("modified", .array [.object [("by", .null)]]),
        ("owner", .object [("id", .text "o")])], .json) := by
  have read : Shape.json.decode (Json.object [("modified", .array [.object [("by", .null)]]),
      ("owner", .object [("id", .text "o")]), ("quantity", .null)]).render.toList = .ok _ :=
    Shape.decode_write rfl (by decide) rfl
  have decoded : Subscription.shape.decode (Json.object [("modified", .array [.object [("by", .null)]]),
      ("owner", .object [("id", .text "o")]), ("quantity", .null)]).render.toList = .ok _ :=
    Shape.decode_write rfl (by decide) rfl
  obtain ⟨members, eq, -, carried⟩ := create_decoded .subscription read decoded "acme"
  cases eq
  exact ⟨_, decoded, carried.2 (by decide)⟩

/-- The key of an owner is not posted again. -/
theorem create_decoded_owner_key :
    ∃ (v : Subscription) (members : List (String × Json)),
      Shape.json.decode "\x7b\"owner\":\x7b\"id\":\"o\",\"key\":\"acme\"\x7d\x7d".toList = .ok (.object members) ∧
      Subscription.shape.decode "\x7b\"owner\":\x7b\"id\":\"o\",\"key\":\"acme\"\x7d\x7d".toList = .ok v ∧
      members = [("owner", .object [("id", .text "o"), ("key", .text "acme")])] ∧
      Subscription.shape.document v = .object [("owner", .object [("id", .text "o")])] ∧
      Subscription.shape.document v ≠ .object (withoutNulls Subscription.shape.wireNames members) := by
  have text : (Json.object [("owner", .object [("id", .text "o"), ("key", .text "acme")])]).render =
      "\x7b\"owner\":\x7b\"id\":\"o\",\"key\":\"acme\"\x7d\x7d" := rfl
  rw [← text]
  refine ⟨_, _, Shape.decode_write rfl (by decide) rfl, Shape.decode_write rfl (by decide) rfl, rfl, rfl, ?_⟩
  intro same
  cases same

end Carrier

end EntitlementClient
