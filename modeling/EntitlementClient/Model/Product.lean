/-
Products: their attributes and content, and products to be created.
-/
import EntitlementClient.Model.Content

namespace EntitlementClient

open EntitlementClient.Schema

/-- An attribute of a product. -/
structure ProductAttribute where
  name : String
  value : String
deriving BEq

/-- How an attribute is laid out in JSON. -/
def ProductAttribute.shape : Shape ProductAttribute :=
  .record "ProductAttribute"
    (.cons (.required (.plain "name") .text) <|
     .cons (.required (.plain "value") .text) .nil)
    { fields a := (a.name, a.value, ())
      ofFields row := ⟨row.1, row.2.1⟩
      ofFields_fields _ := rfl
      fields_ofFields _ := rfl }

/-- Content of a product, and whether it is enabled. -/
structure ProductContent where
  content : Option Content := none
  enabled : Option Bool := none
deriving BEq

/-- How the content of a product is laid out in JSON. -/
def ProductContent.shape : Shape ProductContent :=
  .record "ProductContent"
    (.cons (.optional (.plain "content") Content.shape) <|
     .cons (.optional (.plain "enabled") .flag) .nil)
    { fields a := (a.content, a.enabled, ())
      ofFields row := ⟨row.1, row.2.1⟩
      ofFields_fields _ := rfl
      fields_ofFields _ := rfl }

/-- A product as the server describes it. -/
structure Product where
  id : Option String := none
  name : Option String := none
  label : Option String := none
  hash : Option String := none
  arch : Option String := none
  version : Option String := none
  variant : Option String := none
  type : Option String := none
  attributes : List ProductAttribute := []
  productContent : List ProductContent := []
deriving BEq

/-- How a product is laid out in JSON. -/
def Product.shape : Shape Product :=
  .record "Product"
    (.cons (.optional (.plain "id") .text) <|
     .cons (.optional (.plain "name") .text) <|
     .cons (.optional (.plain "label") .text) <|
     .cons (.optional (.plain "hash") .text) <|
     .cons (.optional (.plain "arch") .text) <|
     .cons (.optional (.plain "version") .text) <|
     .cons (.optional (.plain "variant") .text) <|
     .cons (.optional (.labelled "type" "product_type") .text) <|
     .cons (.defaulted (.plain "attributes") (.list ProductAttribute.shape) .shownList) <|
     .cons (.defaulted (.labelled "productContent" "product_content")
       (.list ProductContent.shape) .emptyList) .nil)
    { fields a := (a.id, a.name, a.label, a.hash, a.arch, a.version, a.variant, a.type,
        a.attributes, a.productContent, ())
      ofFields row := ⟨row.1, row.2.1, row.2.2.1, row.2.2.2.1, row.2.2.2.2.1, row.2.2.2.2.2.1,
        row.2.2.2.2.2.2.1, row.2.2.2.2.2.2.2.1, row.2.2.2.2.2.2.2.2.1, row.2.2.2.2.2.2.2.2.2.1⟩
      ofFields_fields _ := rfl
      fields_ofFields _ := rfl }

/-- The value of the first attribute with a name. -/
def Product.attribute? (product : Product) (name : String) : Option String :=
  (product.attributes.find? fun a => a.name == name).map (·.value)

/-- A product named by its id. -/
structure ProductRef where
  id : String
deriving BEq

/-- How a reference to a product is laid out in JSON. -/
def ProductRef.shape : Shape ProductRef :=
  .record "ProductRef"
    (.cons (.required (.plain "id") .text) .nil)
    { fields a := (a.id, ())
      ofFields row := ⟨row.1⟩
      ofFields_fields _ := rfl
      fields_ofFields _ := rfl }

/-! ## Products to be created -/

/-- A product to be created, with the ids of the products that belong to it. -/
structure NewProduct where
  label : String
  name : String
  hash : String
  version : String := "1"
  variant : String := "ALL"
  arch : String := "ALL"
  type : String := "SVC"
  children : List String := []
  attributes : NameMap String := .empty

namespace NewProduct

/-- One choice of a caller about a new product. -/
inductive Setting
  | version (value : String)
  | variant (value : String)
  | arch (value : String)
  | type (value : String)
  | child (id : String)
  | attribute (name value : String)
deriving DecidableEq

/-- The product after one more choice. Children add up, and of all else the last choice counts. -/
def set (product : NewProduct) : Setting → NewProduct
  | .version value => { product with version := value }
  | .variant value => { product with variant := value }
  | .arch value => { product with arch := value }
  | .type value => { product with type := value }
  | .child id => { product with children := product.children ++ [id] }
  | .attribute name value =>
    { product with attributes := product.attributes.insert name value }

/-- The product after a series of choices. -/
def setAll (product : NewProduct) (settings : List Setting) : NewProduct :=
  settings.foldl set product

/-- The product that is posted: its id is its label, and its attributes stand in the order of their
names. -/
def toProduct (product : NewProduct) : Product :=
  { id := some product.label
    name := some product.name
    label := some product.label
    hash := some product.hash
    arch := some product.arch
    version := some product.version
    variant := some product.variant
    type := some product.type
    attributes := product.attributes.entries.map fun e => ⟨e.1, e.2⟩ }

end NewProduct

end EntitlementClient
