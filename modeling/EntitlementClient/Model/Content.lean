/-
Content (repositories) that products bring with them.
-/
import EntitlementClient.Schema.Basic

namespace EntitlementClient

open EntitlementClient.Schema

/-- Content as the server describes it. -/
structure Content where
  id : Option String := none
  name : Option String := none
  hash : Option String := none
  label : Option String := none
  type : Option String := none
  vendor : Option String := none
  contentUrl : Option String := none
  gpgUrl : Option String := none
deriving BEq

/-- How content is laid out in JSON. -/
def Content.shape : Shape Content :=
  .record "Content"
    (.cons (.optional (.plain "id") .text) <|
     .cons (.optional (.plain "name") .text) <|
     .cons (.optional (.plain "hash") .text) <|
     .cons (.optional (.plain "label") .text) <|
     .cons (.optional (.labelled "type" "content_type") .text) <|
     .cons (.optional (.plain "vendor") .text) <|
     .cons (.optional (.labelled "contentUrl" "content_url") .text) <|
     .cons (.optional (.labelled "gpgUrl" "gpg_url") .text) .nil)
    { fields a := (a.id, a.name, a.hash, a.label, a.type, a.vendor, a.contentUrl, a.gpgUrl, ())
      ofFields row := ⟨row.1, row.2.1, row.2.2.1, row.2.2.2.1, row.2.2.2.2.1, row.2.2.2.2.2.1,
        row.2.2.2.2.2.2.1, row.2.2.2.2.2.2.2.1⟩
      ofFields_fields _ := rfl
      fields_ofFields _ := rfl }

/-- Content to be created. -/
structure NewContent where
  name : String
  hash : String
  label : String
  type : String
  vendor : String
  contentUrl : String
  gpgUrl : String
deriving BEq

/-- How new content is laid out in JSON. -/
def NewContent.shape : Shape NewContent :=
  .record "NewContent"
    (.cons (.required (.plain "name") .text) <|
     .cons (.required (.plain "hash") .text) <|
     .cons (.required (.plain "label") .text) <|
     .cons (.required (.labelled "type" "content_type") .text) <|
     .cons (.required (.plain "vendor") .text) <|
     .cons (.required (.labelled "contentUrl" "content_url") .text) <|
     .cons (.required (.labelled "gpgUrl" "gpg_url") .text) .nil)
    { fields a := (a.name, a.hash, a.label, a.type, a.vendor, a.contentUrl, a.gpgUrl, ())
      ofFields row := ⟨row.1, row.2.1, row.2.2.1, row.2.2.2.1, row.2.2.2.2.1, row.2.2.2.2.2.1,
        row.2.2.2.2.2.2.1⟩
      ofFields_fields _ := rfl
      fields_ofFields _ := rfl }

end EntitlementClient
