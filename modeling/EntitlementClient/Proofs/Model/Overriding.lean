/-
What an open record is written as when a member that it keeps has the name of a field: of members with one
name the last one stands, and the members that are kept come after the fields.
-/
import EntitlementClient.Proofs.Model.Carriage
import EntitlementClient.Proofs.Session.Call

namespace EntitlementClient

open EntitlementClient.Http EntitlementClient.Json EntitlementClient.Schema

namespace Schema

/-! ## Fields as they are written -/

/-- What a field is written as, or none if it is left out. -/
def Field.written : {α : Type} → Field α → α → Option Json
  | _, .required _ shape, a => some (shape.encode a)
  | _, .optional _ shape, a => a.map shape.encode
  | _, .defaulted _ shape default, a => if default.omits a then none else some (shape.encode a)

/-- The names of the fields of a row with what they are written as. -/
def Fields.written : {β : Type} → Fields β → β → List (String × Option Json)
  | _, .nil, _ => []
  | _, .cons field rest, row => (field.name.wire, field.written row.1) :: rest.written row.2

theorem Field.encode_eq {α : Type} (field : Field α) (a : α) :
    field.encode a = (field.written a).toList.map fun json => (field.name.wire, json) := by
  cases field with
  | required name shape => rfl
  | optional name shape => cases a <;> rfl
  | defaulted name shape default =>
    rw [Field.encode, Field.written]
    split <;> rfl

theorem Fields.map_fst_written : {β : Type} → (fields : Fields β) → (row : β) →
    (fields.written row).map (·.1) = fields.wireNames
  | _, .nil, _ => rfl
  | _, .cons _ rest, row => congrArg (_ :: ·) (rest.map_fst_written row.2)

/-- Under the name of a field stands what it is written as, if the fields have different names. -/
theorem Fields.valuesOf_encode_of_mem : {β : Type} → {fields : Fields β} → fields.Lawful → {row : β} →
    {field : String × Option Json} → field ∈ fields.written row →
      valuesOf field.1 (fields.encode row) = field.2.toList
  | _, .nil, _, _, _, mem => absurd mem List.not_mem_nil
  | _, .cons first rest, lawful, row, field, mem => by
    obtain ⟨fresh, -, lawful⟩ := lawful
    rcases List.mem_cons.1 mem with rfl | mem
    · rw [valuesOf_encode_first fresh, first.encode_eq]
      cases first.written row.1 <;> rfl
    · have ne : first.name.wire ≠ field.1 := by
        intro eq
        have named : field.1 ∈ rest.wireNames := rest.map_fst_written row.2 ▸ List.mem_map_of_mem mem
        exact fresh (eq ▸ named)
      rw [valuesOf_encode_rest ne, valuesOf_encode_of_mem lawful mem]

/-! ## Members that are kept -/

variable {β : Type} {fields : Fields β} {row : β} {extra : NameMap Json}

/-- A kept member with the name of a field takes its place, whether or not the field is left out. -/
theorem Fields.get?_posted (lawful : fields.Lawful) {field : String × Option Json} (mem : field ∈ fields.written row) :
    (sortedMembers (fields.encode row ++ extra.entries) .empty).get? field.1 =
      ((extra.get? field.1).or field.2).map sorted := by
  -- of all members with the name the last one stands, and the kept ones come last
  rw [get?_sortedMembers, valuesOf_append, valuesOf_encode_of_mem lawful mem, NameMap.valuesOf_entries,
    List.getLast?_append]
  cases extra.get? field.1 <;> cases field.2 <;> rfl

/-- A kept member whose name is no field's is kept. -/
theorem Fields.get?_posted_of_not_mem {name : String} (h : name ∉ fields.wireNames) :
    (sortedMembers (fields.encode row ++ extra.entries) .empty).get? name = (extra.get? name).map sorted := by
  have none_own : ∀ m ∈ fields.encode row, m.1 ≠ name := by
    rintro m hm rfl
    exact h (name_of_mem_encode hm)
  rw [get?_sortedMembers, valuesOf_append, valuesOf_eq_nil none_own, List.nil_append, NameMap.get?_eq_getLast?]

end Schema

/-! ## Subscriptions and tokens -/

namespace Carrier

/-- The fields of a value, by their names in JSON: each with the JSON value of what it is set to, if it is set. -/
def fields : (carrier : Carrier) → carrier.model.Value → List (String × Option Json)
  | subscription, v =>
    [("id", v.id.map .text), ("owner", v.owner.map fun owner => .object [("id", .text owner.id)]),
      ("product", v.product.map fun product => .object [("id", .text product.id)]),
      ("quantity", v.quantity.map fun quantity => .number (.ofInt64 quantity)), ("startDate", v.startDate.map .text),
      ("endDate", v.endDate.map .text), ("contractNumber", v.contractNumber.map .text),
      ("accountNumber", v.accountNumber.map .text)]
  | token, v =>
    [("id", v.id.map .text), ("token", v.token.map .text),
      ("subscription", v.subscription.map fun subscription => .object [("id", .text subscription.id)])]

theorem sorted_fields (carrier : Carrier) {v : carrier.model.Value} {field : String × Option Json}
    (mem : field ∈ carrier.fields v) : field.2.map sorted = field.2 := by
  have inOrder : ∀ {α : Type} {f : α → Json}, (∀ a, (f a).sorted = f a) → ∀ a? : Option α,
      (a?.map f).map sorted = a?.map f := fun same a? => by cases a? <;> simp [same]
  cases carrier with
  | subscription =>
    simp only [fields, List.mem_cons, List.not_mem_nil, or_false] at mem
    rcases mem with rfl | rfl | rfl | rfl | rfl | rfl | rfl | rfl <;> exact inOrder (fun _ => rfl) _
  | token =>
    simp only [fields, List.mem_cons, List.not_mem_nil, or_false] at mem
    rcases mem with rfl | rfl | rfl <;> exact inOrder (fun _ => rfl) _

/-- The row of fields that a value is laid out by. -/
theorem exists_row (carrier : Carrier) (v : carrier.model.Value) :
    ∃ (β : Type) (fields : Fields β) (row : β), fields.Lawful ∧ fields.written row = carrier.fields v ∧
      fields.wireNames = carrier.model.shape.wireNames ∧
      carrier.model.shape.document v =
        .object (sortedMembers (fields.encode row ++ (carrier.extra v).entries) .empty).entries := by
  cases carrier with
  | subscription => exact ⟨_, _, _, Model.lawful .subscription, rfl, rfl, rfl⟩
  | token => exact ⟨_, _, _, Model.lawful .subscriptionToken, rfl, rfl, rfl⟩

/-- What is posted for the fields of a value and the members that are no fields. -/
structure Posts (carrier : Carrier) (v : carrier.model.Value) (posted : NameMap Json) : Prop where
  /-- A member that is kept takes the place of the field of its name, and stands there too if the field is not set. -/
  field : ∀ field ∈ carrier.fields v,
    posted.get? field.1 = (((carrier.extra v).get? field.1).map sorted).or field.2
  other : ∀ name ∉ (carrier.fields v).map (·.1), posted.get? name = ((carrier.extra v).get? name).map sorted
  /-- The fields are posted as they are set, and no others, if and only if no member that is kept under the name of
  a field says anything else. -/
  faithful : (∀ field ∈ carrier.fields v, posted.get? field.1 = field.2) ↔
    ∀ field ∈ carrier.fields v, ∀ json, (carrier.extra v).get? field.1 = some json → field.2 = some json.sorted

/-- What is posted for a value a caller has made, whatever its fields are set to and whatever members are kept with
them. -/
theorem create_posts (carrier : Carrier) (owner : String) (v : carrier.model.Value) :
    (carrier.fields v).map (·.1) = carrier.model.shape.wireNames ∧
    ∃ posted : NameMap Json, carrier.Posts v posted ∧
      (carrier.create owner v).body? = some (.object posted.entries, .json) ∧
      ∀ (session : Session) (transport : Transport),
        ∀ message ∈ (session.make transport (.operation (carrier.create owner v))).messages,
          message.body = some (Json.object posted.entries).render := by
  obtain ⟨β, fields, row, lawful, written, names, document⟩ := carrier.exists_row v
  have fields_names : (carrier.fields v).map (·.1) = carrier.model.shape.wireNames := by
    rw [← written, fields.map_fst_written, names]
  have body : (carrier.create owner v).body? = some (.object
      (sortedMembers (fields.encode row ++ (carrier.extra v).entries) .empty).entries, .json) := by
    rw [body?_create, document]
  have field : ∀ field ∈ carrier.fields v,
      (sortedMembers (fields.encode row ++ (carrier.extra v).entries) .empty).get? field.1 =
        (((carrier.extra v).get? field.1).map sorted).or field.2 := by
    intro field mem
    rw [Fields.get?_posted lawful (written ▸ mem), Option.map_or, carrier.sorted_fields mem]
  refine ⟨fields_names, _, ⟨field, fun name fresh => ?_, ?_⟩, body, fun session transport message sent => ?_⟩
  · rw [fields_names, ← names] at fresh
    exact Fields.get?_posted_of_not_mem fresh
  · refine forall₂_congr fun f mem => ?_
    rw [field f mem]
    cases (carrier.extra v).get? f.1 <;> simp [eq_comm]
  · rw [Session.mem_perform_messages sent]
    show (carrier.create owner v).request.encodedBody = _
    simp only [Request.encodedBody, Operation.request, body, Option.map_some]

/-- A quantity and a token that are set are lost to members of the same names, and an id that is not set is posted. -/
theorem create_posts_other :
    (∃ (v : Subscription) (members : List (String × Json)),
      (Carrier.subscription.create "acme" v).body? = some (.object members, .json) ∧
      (Carrier.subscription.create "acme" v).request.encodedBody = some "\x7b\"id\":\"s\",\"quantity\":3\x7d" ∧
      v.quantity = some 10 ∧ valuesOf "quantity" members = [.number (.ofInt64 3)] ∧
      v.id = none ∧ valuesOf "id" members = [.text "s"]) ∧
    ∃ v : SubscriptionToken, v.token = some "t" ∧
      (Carrier.token.create "" v).request.encodedBody = some "\x7b\"token\":null\x7d" :=
  ⟨⟨{ quantity := some 10, extra := .ofList [("id", .text "s"), ("quantity", .number (.ofInt64 3))] }, _, rfl,
    by decide +kernel, rfl, rfl, rfl, rfl⟩, { token := some "t", extra := .ofList [("token", .null)] }, rfl,
    by decide +kernel⟩

end Carrier

end EntitlementClient
