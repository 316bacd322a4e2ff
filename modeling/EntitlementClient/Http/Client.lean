/-
Clients: where requests go, what is added to each of them, and one exchange of a request for a
response. What carries a message to the server and a reply back is a parameter, the transport.
-/
import EntitlementClient.Config.Basic
import EntitlementClient.Http.Response
import EntitlementClient.Identity.Presentation

namespace EntitlementClient.Http

open EntitlementClient.Text

/-- A transport carries messages to servers: it tells what becomes of each message that is handed to
it. It may follow redirects, and may make a header of what stands before the host of a URL; what it
sends besides the message is not told here. -/
abbrev Transport := Message → Outcome

/-- A client: the server that it speaks to, and how it makes itself known. -/
structure Client where
  baseUrl : BaseUrl
  basicAuth : Option (Username × Password)
  presentation : Option Presentation
  defaultHeaders : NameMap String

namespace Client

/-- The names of the headers that a client sets itself. -/
def userAgentHeader : String := "User-Agent"

@[inherit_doc userAgentHeader]
def acceptHeader : String := "Accept"

@[inherit_doc userAgentHeader]
def contentTypeHeader : String := "Content-Type"

@[inherit_doc userAgentHeader]
def authorizationHeader : String := "authorization"

/-- How the client calls itself; a caller may put a text of its own in front. -/
def userAgent (ownText : Option String) : String :=
  (match ownText with
    | some text => text ++ " | "
    | none => "") ++ "Candlepin API Client v0.1.0 | Rust 1.70"

/-! ## Setting up -/

/-- What is presented to the server by a client with given credentials. -/
def presentation? : Credentials → Except ClientError (Option Presentation)
  | .basic _ _ => .ok none
  | .certificate identity => (Presentation.ofIdentity identity).map some

/-- The username and the password among credentials. -/
def basicAuth? : Credentials → Option (Username × Password)
  | .basic username password => some (username, password)
  | .certificate _ => none

/-- The client of a configuration. -/
def ofConfig (config : Config) : Traced Client := do
  if config.acceptInvalidCertificates then
    Traced.log (.serverUnverified config.baseUrl.text)
  let presentation ← Traced.ofExcept (presentation? config.credentials)
  Traced.log (.clientReady config.baseUrl.text config.credentials.mode)
  return {
    baseUrl := config.baseUrl
    basicAuth := basicAuth? config.credentials
    presentation
    defaultHeaders := NameMap.ofList [(userAgentHeader, userAgent config.userAgentPrefix)] }

/-- The URL of a path. -/
def urlFor (client : Client) (path : String) : String :=
  client.baseUrl.text ++ path

/-! ## Messages -/

/-- The value of the header that holds a username and a password. -/
def basicToken (username password : String) : String :=
  "Basic " ++ String.ofList (Base64.encode (Utf8.encode (username ++ ":" ++ password).toList))

/-- The headers of a request: the client's own, and those of the caller, which take the place of one
of the client's if they have exactly its name. -/
def headers (client : Client) (request : Request) : NameMap String :=
  let accepting := client.defaultHeaders.insert acceptHeader request.accept.name
  let typed := match request.bodyType with
    | some type => accepting.insert contentTypeHeader type.name
    | none => accepting
  (request.headers.getD .empty).entries.foldl (fun map h => map.insert h.1 h.2) typed

/-- The header by which the client makes itself known, if it has a username. -/
def authorization (client : Client) : List (String × String) :=
  client.basicAuth.toList.map fun (username, password) =>
    (authorizationHeader, basicToken username.text password.text)

/-- The message that a request makes. -/
def message (client : Client) (request : Request) : Message :=
  { method := request.method
    url := client.urlFor request.path
    headers := (client.headers request).entries ++ client.authorization
    body := request.encodedBody }

/-! ## Exchange -/

/-- The response to a reply: one that tells of a refusal is an error. -/
def receive (request : Request) (reply : Reply) : Traced Response := do
  let response := Response.ofReply reply
  Traced.log (.answered request.method request.path response.code)
  if response.isOk then return response
  Traced.log (.refused response.code request.method request.path)
  Traced.fail (.transport (.response response.code response.body response.requestId?))

/-- Exchanges a request for a response. A request whose body does not fit its type goes nowhere; the
message of any other is handed to the transport once, if it can be sent. -/
def exchange (client : Client) (transport : Transport) (request : Request) : Traced Response := do
  Traced.emit (.requested request)
  match request.verify with
  | .error fault => Traced.fail (.transport (.invalidRequest fault))
  | .ok () =>
    Traced.log (.sending request.method request.path)
    let message := client.message request
    -- the request has been announced, although nothing of it will be sent
    if !message.isSendable then Traced.fail (.transport .network)
    else match transport message with
      | .unreachable => Traced.fail (.transport .network)
      | .lost =>
        Traced.emit (.delivered message)
        Traced.fail (.transport .network)
      | .reply reply =>
        Traced.emit (.delivered message)
        receive request reply

end Client

end EntitlementClient.Http
