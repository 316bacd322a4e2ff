/-
Replies in which something is null. For most fields that is as if it were not told; the facts of a consumer, the
attributes and the content of a product and the certificates of an entitlement may be left out, but not be null.
-/
import EntitlementClient.Proofs.Model.Variation
import EntitlementClient.Proofs.Schema.Absence

namespace EntitlementClient

open EntitlementClient.Http EntitlementClient.Json EntitlementClient.Schema

variable {α : Type}

/-- The lists and the maps of the models that replies hold. -/
theorem IsModel.collections_subset {shape : Shape α} (h : IsModel shape) :
    shape.collections ⊆ ["facts", "attributes", "productContent", "certificates"] := by
  induction h with
  | list _ ih => rw [Shape.collections]; exact ih
  | _ => decide

namespace Http.Response

theorem decode_withBody_error {response : Response} {x : Source} {shape : Shape α} {path : String}
    (refused : (shape.reader depthLimit).value? x = none) :
    ∃ message, (response.withBody x).decode shape path = .error (.invalidJson path message) := by
  have nothing : (shape.decode x.text).toOption = none := (shape.toOption_decode_text x).trans refused
  cases read : shape.decode x.text with
  | ok a =>
    rw [read] at nothing
    cases nothing
  | error fault =>
    have body : shape.decode (response.withBody x).body.toList = .error fault := by
      rw [withBody, String.toList_ofList, read]
    exact ⟨_, ((response.withBody x).decodes shape path).error fault body⟩

/-- A response tells the same with a null for a field that is not told, anywhere in a model, unless the field is a
list or a map; with a null for one of these it is not a response of the server at all. -/
theorem decode_null {shape : Shape α} (model : IsModel shape) {response : Response} {path : String} {a : α}
    (decoded : response.decode shape path = .ok a) :
    (∃ x : Source, response.body = String.ofList x.text) ∧
      ∀ x : Source, response.body = String.ofList x.text → ∀ name x',
        (shape.GainsNull .optional name x x' → (response.withBody x').decode shape path = .ok a) ∧
        (shape.GainsNull .collection name x x' →
          name ∈ ["facts", "attributes", "productContent", "certificates"] ∧
            ∃ message, (response.withBody x').decode shape path = .error (.invalidJson path message)) := by
  constructor
  · obtain ⟨x, text⟩ := Shape.exists_source_of_decode ((response.decodes shape path).ok a |>.1 decoded)
    exact ⟨x, by rw [text, String.ofList_toList]⟩
  · intro x body name x'
    constructor
    · intro gains
      have value := value?_of_decode body decoded
      rw [← gains.value?_eq] at value
      exact decode_withBody_eq_ok.2 value
    · intro gains
      exact ⟨model.collections_subset gains.mem_collections, decode_withBody_error (gains.value?_eq_none depthLimit)⟩

/-- A consumer in a list, whose owner has no display name and which has no facts itself. -/
theorem decode_null_owner :
    (⟨200, .empty, "[\x7b\"owner\":\x7b\"key\":\"k\",\"displayName\":null\x7d\x7d]"⟩ : Response).decode
        (.list Consumer.shape) "/consumers" = .ok [{ owner := some { key := some "k" } }] ∧
      ∃ message, (⟨200, .empty, "[\x7b\"facts\":null,\"owner\":\x7b\"key\":\"k\"\x7d\x7d]"⟩ : Response).decode
        (.list Consumer.shape) "/consumers" = .error (.invalidJson "/consumers" message) := by
  have decoded := decode_render (.list Consumer.shape) (.array [.object [("owner", .object [("key", .text "k")])]]) rfl
    (by decide) rfl "/consumers"
  have owner : (Shape.list Consumer.shape).Within Owner.shape _ :=
    .item ⟨.none, .none⟩ .none [] [] (Consumer.within_owner [] [])
  have displayName : (Shape.list Consumer.shape).GainsNull .optional "displayName" _ _ :=
    .within owner rfl ⟨.none, .none⟩ .none [(.plain ['k', 'e', 'y'] (by decide), .plain ['k'] (by decide))] []
      (Key.name?_plain ['d', 'i', 's', 'p', 'l', 'a', 'y', 'N', 'a', 'm', 'e'] (by decide)) (by simp [memberNames])
      ⟨.none, .none⟩
  have facts : (Shape.list Consumer.shape).GainsNull .collection "facts" _ _ :=
    .within (.item ⟨.none, .none⟩ .none [] [] (.here Consumer.shape)) rfl ⟨.none, .none⟩ .none []
      [(.plain ['o', 'w', 'n', 'e', 'r'] (by decide),
        .object ⟨.none, .none⟩ .none [(.plain ['k', 'e', 'y'] (by decide), .plain ['k'] (by decide))])]
      (Key.name?_plain ['f', 'a', 'c', 't', 's'] (by decide)) (by simp [memberNames]) ⟨.none, .none⟩
  obtain ⟨-, same⟩ := decode_null (.list .consumer) decoded
  constructor
  · exact decode_of_text (by rfl) ((same _ (by rfl) _ _).1 displayName)
  · obtain ⟨-, message, refused⟩ := (same _ (by rfl) _ _).2 facts
    exact ⟨message, decode_of_text (by rfl) refused⟩

/-- A product without attributes is a product, but one whose attributes are null is refused. -/
theorem decode_null_attributes :
    (⟨200, .empty, "\x7b\x7d"⟩ : Response).decode Product.shape "/products/x" = .ok {} ∧
      ∃ message, (⟨200, .empty, "\x7b\"attributes\":null\x7d"⟩ : Response).decode Product.shape "/products/x" =
        .error (.invalidJson "/products/x" message) := by
  have gains : Product.shape.GainsNull .collection "attributes" _ _ :=
    .within (.here _) rfl ⟨.none, .none⟩ .none [] []
      (Key.name?_plain ['a', 't', 't', 'r', 'i', 'b', 'u', 't', 'e', 's'] (by decide)) (by simp [memberNames])
      ⟨.none, .none⟩
  constructor
  · exact decode_render Product.shape (.object []) rfl (by decide) rfl "/products/x"
  · obtain ⟨message, refused⟩ : ∃ message, ((⟨200, .empty, ""⟩ : Response).withBody _).decode Product.shape
        "/products/x" = .error (.invalidJson "/products/x" message) :=
      decode_withBody_error (gains.value?_eq_none depthLimit)
    exact ⟨message, decode_of_text (by rfl) refused⟩

end Http.Response

end EntitlementClient
