/-
What becomes of the choices for a new product: the product that is posted is read back with all of them but the
children, and those are read back from the path.
-/
import EntitlementClient.Proofs.Choices
import EntitlementClient.Proofs.Model.Posting
import EntitlementClient.Proofs.Route.Reading
import EntitlementClient.Proofs.Text.Utf8
import Mathlib.Data.List.Induction
import Mathlib.Data.String.Basic

namespace EntitlementClient

open EntitlementClient.Schema EntitlementClient.Text

/-- An attribute is listed if and only if it has a value. -/
theorem Product.mem_names_iff (product : Product) (name : String) :
    name ∈ product.attributes.map (·.name) ↔ product.attribute? name ≠ none := by
  simp [attribute?]

namespace NewProduct

/-! ## Choices -/

namespace Setting

/-- The version that is chosen, if it is the version. -/
def version? : Setting → Option String
  | .version value => some value
  | _ => none

/-- The variant that is chosen, if it is the variant. -/
def variant? : Setting → Option String
  | .variant value => some value
  | _ => none

/-- The architecture that is chosen, if it is the architecture. -/
def arch? : Setting → Option String
  | .arch value => some value
  | _ => none

/-- The type that is chosen, if it is the type. -/
def type? : Setting → Option String
  | .type value => some value
  | _ => none

/-- The child that is added, if it is a child. -/
def child? : Setting → Option String
  | .child id => some id
  | _ => none

/-- The attribute that is set, with its value, if it is an attribute. -/
def attribute? : Setting → Option (String × String)
  | .attribute name value => some (name, value)
  | _ => none

end Setting

variable {settings : List Setting}

/-- The children add up, of every other kind and of every attribute the last choice counts, and nothing else of a
product changes. -/
theorem setAll_eq (product : NewProduct) (settings : List Setting) : product.setAll settings =
    { product with
      version := (lastOf? Setting.version? settings).getD product.version
      variant := (lastOf? Setting.variant? settings).getD product.variant
      arch := (lastOf? Setting.arch? settings).getD product.arch
      type := (lastOf? Setting.type? settings).getD product.type
      children := product.children ++ settings.filterMap Setting.child?
      attributes :=
        (settings.filterMap Setting.attribute?).foldl (fun map e => map.insert e.1 e.2) product.attributes } := by
  -- on the choice made last, which is the one that counts for its kind
  induction settings using List.reverseRecOn with
  | nil => simp [setAll, lastOf?]
  | append_singleton settings setting ih =>
    have step : product.setAll (settings ++ [setting]) = (product.setAll settings).set setting := by
      simp [setAll, List.foldl_append]
    rw [step, ih]
    cases setting <;>
      simp [set, lastOf?_concat, Setting.version?, Setting.variant?, Setting.arch?, Setting.type?, Setting.child?,
        Setting.attribute?, List.filterMap_cons]

/-! ## Attributes -/

theorem attribute?_toProduct (product : NewProduct) (name : String) :
    product.toProduct.attribute? name = product.attributes.get? name := by
  simp only [Product.attribute?, toProduct, NameMap.get?, List.find?_map, Option.map_map]
  rfl

/-- The names of the attributes increase by their bytes. -/
theorem names_toProduct_increase (product : NewProduct) : product.toProduct.attributes.Pairwise fun a b =>
    Utf8.encode a.name.toList < Utf8.encode b.name.toList := by
  rw [toProduct, List.pairwise_map]
  exact product.attributes.increasing.imp fun lt => Utf8.encode_lt_encode (String.lt_iff_toList_lt.1 lt)

theorem mem_filterMap_attribute? {name value : String} :
    (name, value) ∈ settings.filterMap Setting.attribute? ↔ .attribute name value ∈ settings := by
  rw [List.mem_filterMap]
  constructor
  · rintro ⟨setting, mem, eq⟩
    cases setting <;> cases eq
    exact mem
  · exact fun mem => ⟨_, mem, rfl⟩

/-! ## What is sent -/

/-- What a product has of the choices made for it. -/
structure Has (label name hash : String) (settings : List Setting) (product : Product) : Prop where
  /-- Of the values that have been set for an attribute the last one counts. -/
  value : ∀ n, product.attribute? n = (valuesOf n (settings.filterMap Setting.attribute?)).getLast?
  listed : ∀ n, n ∈ product.attributes.map (·.name) ↔ ∃ value, .attribute n value ∈ settings
  /-- The names increase strictly by their bytes, so each stands once. -/
  increasing : product.attributes.Pairwise fun a b => Utf8.encode a.name.toList < Utf8.encode b.name.toList
  id : product.id = some label
  label : product.label = some label
  name : product.name = some name
  hash : product.hash = some hash
  version : product.version = some ((lastOf? Setting.version? settings).getD "1")
  variant : product.variant = some ((lastOf? Setting.variant? settings).getD "ALL")
  arch : product.arch = some ((lastOf? Setting.arch? settings).getD "ALL")
  type : product.type = some ((lastOf? Setting.type? settings).getD "SVC")
  content : product.productContent = []

variable (label name hash : String) (settings : List Setting)

theorem has_toProduct : Has label name hash settings (setAll { label, name, hash } settings).toProduct := by
  have value : ∀ n, (setAll { label, name, hash } settings).toProduct.attribute? n =
      (valuesOf n (settings.filterMap Setting.attribute?)).getLast? := by
    intro n
    rw [attribute?_toProduct, setAll_eq, NameMap.get?_foldl_insert, NameMap.get?_empty, Option.or_none]
  have listed : ∀ n, n ∈ (setAll { label, name, hash } settings).toProduct.attributes.map (·.name) ↔
      ∃ value, .attribute n value ∈ settings := by
    intro n
    rw [Product.mem_names_iff, value, Ne, List.getLast?_eq_none_iff, List.eq_nil_iff_forall_not_mem]
    simp only [mem_valuesOf, not_forall, not_not, mem_filterMap_attribute?]
  refine ⟨value, listed, names_toProduct_increase _, ?_, ?_, ?_, ?_, ?_, ?_, ?_, ?_, rfl⟩ <;>
    simp only [toProduct, setAll_eq]

/-- Choices of children do not change the product that is posted. -/
theorem toProduct_without_children : (setAll { label, name, hash } (settings.filter (·.child?.isNone))).toProduct =
    (setAll { label, name, hash } settings).toProduct := by
  have kept : ∀ {α : Type} (kind : Setting → Option α), (∀ id, kind (.child id) = none) →
      (settings.filter (·.child?.isNone)).filterMap kind = settings.filterMap kind := by
    intro α kind other
    refine filterMap_filter_of_none (fun setting isChild => ?_) settings
    cases setting with
    | child id => exact other id
    | _ => cases isChild
  simp only [toProduct, setAll_eq, lastOf?]
  rw [kept Setting.version? fun _ => rfl, kept Setting.variant? fun _ => rfl, kept Setting.arch? fun _ => rfl,
    kept Setting.type? fun _ => rfl, kept Setting.attribute? fun _ => rfl]

/-- The children are read back from the path. -/
theorem read?_path (product : NewProduct) :
    ∃ parameters,
      Address.read? (Operation.createProduct product).request.path.toList = some (["products"], parameters) ∧
      parameters.getD [] = product.children.map (Parameter.single "childId") := by
  have path : (Operation.createProduct product).request.path.toList = (Route.products product.children).address.text :=
    String.toList_ofList
  have values : ∀ query ∈ (Route.products product.children).address.query, ∀ p ∈ query.parameters, p.values ≠ [] := by
    intro query given p mem
    obtain ⟨-, eq⟩ := Option.ite_none_left_eq_some.1 given
    cases eq
    obtain ⟨id, -, rfl⟩ := List.mem_map.1 mem
    exact List.cons_ne_nil _ _
  refine ⟨_, path ▸ Address.read?_text values, ?_⟩
  rcases product.children with _ | ⟨id, children⟩ <;> rfl

/-- The text that is posted for a new product, whatever choices have been made for it, is read back with all of
them but the children, and the children are read back from the path, in the order in which they have been added. Nothing
of them is posted. -/
theorem choices_sent (label name hash : String) (settings : List Setting) :
    ∃ text read, (Operation.createProduct (setAll { label, name, hash } settings)).request.encodedBody = some text ∧
      Product.shape.decode text.toList = .ok read ∧ Has label name hash settings read ∧
      (∃ parameters,
        Address.read? (Operation.createProduct (setAll { label, name, hash } settings)).request.path.toList =
          some (["products"], parameters) ∧
        parameters.getD [] = (settings.filterMap Setting.child?).map (Parameter.single "childId")) ∧
      ∀ settings' : List Setting, settings'.filter (·.child?.isNone) = settings.filter (·.child?.isNone) →
        (Operation.createProduct (setAll { label, name, hash } settings')).request.encodedBody = some text := by
  have body : ∀ product : NewProduct, (Operation.createProduct product).request.encodedBody =
      some (Posting.product.text product) := by
    intro product
    have posted : (Operation.createProduct product).posted? = some ⟨.product, product⟩ := rfl
    have sent := Posted.encodedBody_eq posted
    exact sent
  refine ⟨_, _, body _, Posting.decode_text .product _, has_toProduct label name hash settings, ?_, ?_⟩
  · have children : (setAll { label, name, hash } settings).children = settings.filterMap Setting.child? := by
      simp [setAll_eq]
    exact children ▸ read?_path _
  · intro settings' same
    have alike :
        (setAll { label, name, hash } settings').toProduct = (setAll { label, name, hash } settings).toProduct := by
      rw [← toProduct_without_children, same, toProduct_without_children]
    rw [body]
    simp only [Posting.text, Posting.encode, alike]

end NewProduct

end EntitlementClient
