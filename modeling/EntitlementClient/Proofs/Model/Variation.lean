/-
Replies that differ in the order of members or in members that are not modelled tell the same. Of
subscriptions and tokens the members that are not modelled are kept, each where it has been added.
-/
import EntitlementClient.Proofs.Model.Carriage
import EntitlementClient.Proofs.Operation.Reading
import EntitlementClient.Proofs.Schema.Addition

namespace EntitlementClient

open EntitlementClient.Http EntitlementClient.Json EntitlementClient.Schema

/-! ## Responses -/

namespace Http.Response

variable {α : Type}

/-- The response with another body. -/
def withBody (response : Response) (x : Source) : Response :=
  { response with body := String.ofList x.text }

theorem decode_withBody_eq_ok {response : Response} {x : Source} {shape : Shape α} {path : String} {a : α} :
    (response.withBody x).decode shape path = .ok a ↔ (shape.reader depthLimit).value? x = some a := by
  rw [((response.withBody x).decodes shape path).ok, withBody, String.toList_ofList, Shape.decode_text_eq_ok]

theorem value?_of_decode {response : Response} {x : Source} (body : response.body = String.ofList x.text)
    {shape : Shape α} {path : String} {a : α} (decoded : response.decode shape path = .ok a) :
    (shape.reader depthLimit).value? x = some a := by
  have same : response.withBody x = response := by rw [withBody, ← body]
  rw [← same] at decoded
  exact decode_withBody_eq_ok.1 decoded

/-- The text of a value that stands for a model is decoded to that model. -/
theorem decode_render (shape : Shape α) (json : Json) {a : α} (integral : json.integral = true)
    (small : json.depth ≤ depthLimit) (stands : shape.ofJson json = some a) (path : String) :
    (⟨200, .empty, json.render⟩ : Response).decode shape path = .ok a :=
  ((Response.decodes _ shape path).ok a).2 (Shape.decode_write integral small stands)

theorem decode_of_text {shape : Shape α} {response : Response} {x : Source} {body path : String}
    {result : Except ClientError α} (text : body = String.ofList x.text)
    (decoded : (response.withBody x).decode shape path = result) :
    ({ response with body } : Response).decode shape path = result := by
  rw [text]
  exact decoded

end Http.Response

/-! ## Subscriptions and tokens -/

namespace Carrier

/-- The value with other members that are not modelled. -/
def withExtra : (carrier : Carrier) → carrier.model.Value → NameMap Json → carrier.model.Value
  | subscription, v, extra => ({ (v : Subscription) with extra } : Subscription)
  | token, v, extra => ({ (v : SubscriptionToken) with extra } : SubscriptionToken)

/-- What a reader reads of a subscription or a token after members have been added. -/
theorem value?_added (carrier : Carrier) {d : Nat} {members members' : List (Key × Source)}
    {entries : List (String × Json)} (h : Added carrier.model.shape.wireNames (d - 1) members members' entries)
    {pad : Pad} {inside : Blanks} {v : carrier.model.Value}
    (found : (carrier.model.shape.reader d).value? (.object pad inside members) = some v) :
    ∃ extra, (carrier.model.shape.reader d).value? (.object pad inside members') = some (carrier.withExtra v extra) ∧
      extra.entries.Perm (entries ++ (carrier.extra v).entries) := by
  cases carrier with
  | subscription => exact h.value? found
  | token => exact h.value? found

end Carrier

/-! ## Replies -/

/-- A response tells the same, whatever the order of the members of a model is and whatever members are added
that are not modelled, alone or in a list. To a subscription or a token the added members are kept, and nothing
else changes. -/
theorem Http.Response.decode_varied :
    (∀ {α : Type} {shape : Shape α}, IsModel shape → ∀ (response : Response) (path : String) (a : α),
      response.decode shape path = .ok a →
        (∃ x : Source, response.body = String.ofList x.text) ∧
          ∀ x x' : Source, response.body = String.ofList x.text → shape.Varied x x' →
            (response.withBody x').decode shape path = .ok a) ∧
    (∀ (carrier : Carrier) (response : Response) (path : String) (v : carrier.model.Value),
      response.decode carrier.model.shape path = .ok v →
        ∀ pad inside members members' entries, response.body = String.ofList (Source.object pad inside members).text →
          Added carrier.model.shape.wireNames (depthLimit - 1) members members' entries →
            ∃ extra, (response.withBody (.object pad inside members')).decode carrier.model.shape path =
                .ok (carrier.withExtra v extra) ∧
              extra.entries.Perm (entries ++ (carrier.extra v).entries)) ∧
    ∀ (carrier : Carrier) (response : Response) (path : String) (values : List carrier.model.Value),
      response.decode (.list carrier.model.shape) path = .ok values →
        ∀ pad inside before after itemPad itemInside members members' entries,
          response.body =
              String.ofList (Source.array pad inside (before ++ .object itemPad itemInside members :: after)).text →
            Added carrier.model.shape.wireNames (depthLimit - 2) members members' entries →
              ∃ first v rest extra, values = first ++ v :: rest ∧ first.length = before.length ∧
                (response.withBody (.array pad inside (before ++ .object itemPad itemInside members' :: after))).decode
                  (.list carrier.model.shape) path = .ok (first ++ carrier.withExtra v extra :: rest) ∧
                extra.entries.Perm (entries ++ (carrier.extra v).entries) := by
  refine ⟨fun {α shape} _ response path a decoded => ⟨?_, fun x x' body varied => ?_⟩,
    fun carrier response path v decoded pad inside members members' entries body added => ?_,
    fun carrier response path values decoded pad inside before after itemPad itemInside members members' entries body
      added => ?_⟩
  · obtain ⟨x, text⟩ := Shape.exists_source_of_decode ((response.decodes shape path).ok a |>.1 decoded)
    exact ⟨x, by rw [text, String.ofList_toList]⟩
  · have value := Shape.decode_text_eq_ok.2 (value?_of_decode body decoded)
    exact decode_withBody_eq_ok.2 (Shape.decode_text_eq_ok.1 (varied.decode_eq_ok value))
  · obtain ⟨extra, value, perm⟩ := carrier.value?_added added (value?_of_decode body decoded)
    exact ⟨extra, decode_withBody_eq_ok.2 value, perm⟩
  · obtain ⟨first, v, rest, rfl, length, item, others⟩ := Shape.exists_of_value?_list (value?_of_decode body decoded)
    obtain ⟨extra, value, perm⟩ := carrier.value?_added added item
    exact ⟨first, v, rest, extra, rfl, length, decode_withBody_eq_ok.2 (others _ _ value), perm⟩

/-- The owner of a consumer stands within the consumer. -/
theorem Consumer.within_owner (before after : List (Key × Source)) :
    Consumer.shape.Within Owner.shape fun x => .object ⟨.none, .none⟩ .none
      (before ++ (.plain ['o', 'w', 'n', 'e', 'r'] (by decide), x) :: after) :=
  .member ⟨.none, .none⟩ .none before after (Key.name?_plain ['o', 'w', 'n', 'e', 'r'] (by decide))
    (.tail (by decide) (.tail (by decide) (.tail (by decide) (.tail (by decide) (.head (.optional _ _) _)))))
    (.here Owner.shape)

/-- A number of any size in the owner of a consumer does not matter, nor does it that the owner is told first. Of
a token, alone or in a list, a level is kept. -/
theorem Http.Response.decode_varied_level :
    (⟨200, .empty, "\x7b\"owner\":\x7b\"key\":\"k\",\"level\":[1e999]\x7d,\"uuid\":\"u\"\x7d"⟩ : Response).decode
        Consumer.shape "/" = .ok { uuid := some "u", owner := some { key := some "k" } } ∧
      ∃ extra : NameMap Json, extra.entries = [("level", .bool true)] ∧
        (⟨200, .empty, "\x7b\"level\":true,\"id\":\"t\"\x7d"⟩ : Response).decode SubscriptionToken.shape "/" =
          .ok { id := some "t", extra } ∧
        ∃ extra : NameMap Json, extra.entries = [("level", .bool true)] ∧
          (⟨200, .empty, "[\x7b\"level\":true,\"id\":\"t\"\x7d]"⟩ : Response).decode
            (.list SubscriptionToken.shape) "/" = .ok [{ id := some "t", extra }] := by
  constructor
  · have numeral : IsNumeral ['1', 'e', '9', '9', '9'] :=
      ⟨[], ['1'], [], ['e', '9', '9', '9'], rfl, .inl rfl, .inr ⟨⟨by decide, List.all_eq_true.1 rfl⟩, by decide⟩,
        .inl rfl, .inr ⟨'e', [], ['9', '9', '9'], rfl, .inl rfl, .inl rfl, by decide, List.all_eq_true.1 rfl⟩⟩
    have inserted : Owner.shape.Differs _ _ :=
      .insert ⟨.none, .none⟩ .none [(.plain ['k', 'e', 'y'] (by decide), .plain ['k'] (by decide))] []
        (Key.name?_plain ['l', 'e', 'v', 'e', 'l'] (by decide)) (by decide)
        (.array ⟨.none, .none⟩ .none [.scalar ⟨.none, .none⟩ _ (.number numeral)])
    have owner := Consumer.within_owner [(.plain ['u', 'u', 'i', 'd'] (by decide), .plain ['u'] (by decide))] []
    have swapped (a b : Key × Source) :
        Consumer.shape.Varies (.object ⟨.none, .none⟩ .none [a, b]) (.object ⟨.none, .none⟩ .none [b, a]) :=
      .within (.here Consumer.shape) (.order ⟨.none, .none⟩ .none (.swap b a []))
    have told := decode_render Consumer.shape (.object [("uuid", .text "u"), ("owner", .object [("key", .text "k")])])
      rfl (by decide) rfl "/"
    have varied := (decode_varied.1 .consumer _ "/" _ told).2 _ _ rfl
      (.tail (.single (.within owner inserted)) (swapped _ _))
    exact decode_of_text (by rfl) varied
  · have value (d : Nat) :
        (Shape.json.reader d).value? (.scalar ⟨.none, .none⟩ _ .trueLiteral) = some (.bool true) := by
      rw [Shape.reader, (means_valueReader d).value?_eq]
      cases d <;> rfl
    have added (d : Nat) : Added SubscriptionToken.shape.wireNames d
        [(.plain ['i', 'd'] (by decide), .plain ['t'] (by decide))] _ [("level", .bool true)] :=
      .member [] _ .nothing (Key.name?_plain ['l', 'e', 'v', 'e', 'l'] (by decide)) (by decide)
        (by simp [memberNames]) (value d)
    have told := decode_render SubscriptionToken.shape (.object [("id", .text "t")]) rfl (by decide) rfl "/"
    have listTold := decode_render (.list SubscriptionToken.shape) (.array [.object [("id", .text "t")]]) rfl
      (by decide) rfl "/"
    obtain ⟨extra, alone, entries⟩ := decode_varied.2.1 .token _ "/" _ told ⟨.none, .none⟩ .none _ _ _ rfl (added _)
    obtain ⟨first, v, rest, extra', split, length, listed, entries'⟩ := decode_varied.2.2 .token _ "/" _ listTold
      ⟨.none, .none⟩ .none [] [] ⟨.none, .none⟩ .none _ _ _ rfl (added _)
    obtain rfl := List.eq_nil_of_length_eq_zero length
    cases split
    exact ⟨extra, List.perm_singleton.1 entries, decode_of_text (by rfl) alone, extra',
      List.perm_singleton.1 entries', decode_of_text (by rfl) listed⟩

end EntitlementClient
