/-
Addresses: paths of segments and queries of parameters, and their written form. Segments and values
are escaped, so that none of them can hold what stands between them.
-/
import EntitlementClient.Text.Percent

namespace EntitlementClient

open EntitlementClient.Text

/-- A parameter of a query. Several values are written with commas between them. -/
structure Parameter where
  name : String
  values : List String
deriving DecidableEq

/-- How the parameters of a query are kept apart: a separator stands between them, or after each of
them. -/
inductive Separation
  | between
  | after
deriving DecidableEq

/-- A query. -/
structure Query where
  parameters : List Parameter
  separation : Separation
deriving DecidableEq

/-- The address of a resource relative to the base URL. -/
structure Address where
  segments : List String
  query : Option Query := none
deriving DecidableEq

/-- A parameter with one value. -/
def Parameter.single (name value : String) : Parameter :=
  ⟨name, [value]⟩

/-- The written form of a parameter. -/
def Parameter.text (parameter : Parameter) : List Char :=
  Percent.encode parameter.name ++
    '=' :: List.intercalate [','] (parameter.values.map Percent.encode)

namespace Query

/-- A query with separators between its parameters. -/
def of (parameters : List Parameter) : Query :=
  ⟨parameters, .between⟩

/-- A query with separators between its parameters, unless there are none. -/
def ofNonempty? (parameters : List Parameter) : Option Query :=
  if parameters.isEmpty then none else some (of parameters)

/-- The written form of a query. -/
def text (query : Query) : List Char :=
  match query.separation with
  | .between => List.intercalate ['&'] (query.parameters.map Parameter.text)
  | .after => query.parameters.flatMap fun p => p.text ++ ['&']

end Query

namespace Address

/-- The written form of a path. -/
def pathText (address : Address) : List Char :=
  address.segments.flatMap fun segment => '/' :: Percent.encode segment

/-- The written form of a query with the mark before it. -/
def queryText (address : Address) : List Char :=
  match address.query with
  | some query => '?' :: query.text
  | none => []

/-- The written form of an address. -/
def text (address : Address) : List Char :=
  address.pathText ++ address.queryText

end Address

end EntitlementClient
