/-
Requests: what a caller asks for, before it is put on its way. A body needs a type, and only a
string can be sent as plain text.
-/
import EntitlementClient.Error
import EntitlementClient.Json.Writer

namespace EntitlementClient.Http

/-- What is to be done with a resource. -/
inductive Method
  | get
  | post
  | put
  | delete
deriving DecidableEq

/-- The name of a method. -/
def Method.name : Method → String
  | .get => "GET"
  | .post => "POST"
  | .put => "PUT"
  | .delete => "DELETE"

/-- The types of what is sent and received. -/
inductive MediaType
  | json
  | text
deriving DecidableEq

/-- The name of a type in a header. -/
def MediaType.name : MediaType → String
  | .json => "application/json"
  | .text => "text/plain"

/-- A request: the path is relative to the base URL, and the headers are those that the caller
adds. -/
structure Request where
  method : Method
  path : String
  body : Option Json := none
  bodyType : Option MediaType := none
  accept : MediaType := .json
  headers : Option (NameMap String) := none
deriving BEq

namespace Request

/-- Whether a JSON value is a string. -/
def isText : Json → Bool
  | .text _ => true
  | _ => false

/-- Checks that the body fits its type. -/
def verify (request : Request) : Except RequestFault Unit :=
  match request.body, request.bodyType with
  | some _, none => .error .missingBodyType
  | some body, some .text => if isText body then .ok () else .error .textBodyNotString
  | _, _ => .ok ()

/-- The text of the body: a string that is sent as plain text stands for itself, and all else is
JSON. -/
def encodedBody (request : Request) : Option String :=
  request.body.map fun body =>
    match request.bodyType, body with
    | some .text, .text s => s
    | _, body => body.render

/-! ## Putting a request together -/

/-- One choice of a caller about a request. -/
inductive Setting
  | body (value : Json)
  | bodyType (type : MediaType)
  | accept (type : MediaType)
  | header (name value : String)

/-- The request after one more choice. Headers add up by their exact names, and of all else the last
choice counts. -/
def set (request : Request) : Setting → Request
  | .body value => { request with body := some value }
  | .bodyType type => { request with bodyType := some type }
  | .accept type => { request with accept := type }
  | .header name value =>
    { request with headers := some ((request.headers.getD .empty).insert name value) }

/-- The request after a series of choices. -/
def setAll (request : Request) (settings : List Setting) : Request :=
  settings.foldl set request

/-- The request that a series of choices makes, if its body fits its type. -/
def build (method : Method) (path : String) (settings : List Setting) :
    Except RequestFault Request :=
  let request := setAll { method, path } settings
  match request.verify with
  | .error fault => .error fault
  | .ok () => .ok request

end Request

end EntitlementClient.Http
