/-
Configurations: the choices of a caller, and the checked configuration that they make.
-/
import EntitlementClient.Config.BaseUrl
import EntitlementClient.Config.Credentials

namespace EntitlementClient

open EntitlementClient.Text

/-- A checked configuration of a client. -/
structure Config where
  credentials : Credentials
  host : Host
  port : UInt16
  baseUrl : BaseUrl
  userAgentPrefix : Option String
  acceptInvalidCertificates : Bool

namespace Config

/-- The text for people to read. -/
def inspect (config : Config) : String :=
  inspectFields "CandlepinConfig"
    [("credentials", config.credentials.inspect),
      ("host", config.host.inspect),
      ("port", toString config.port.toNat),
      ("base_url", config.baseUrl.inspect),
      ("user_agent_prefix", inspectOption Quoted.quote config.userAgentPrefix),
      ("accept_invalid_certs", inspectBool config.acceptInvalidCertificates)]

/-- The port that is taken if none is given. -/
def standardPort : UInt16 := 8443

/-- One choice of a caller about the configuration. -/
inductive Setting
  | basicAuth (username password : String)
  | identityCertificate (certificate key : String)
  | host (text : String)
  | port (number : UInt16)
  | baseUrl (text : String)
  | userAgentPrefix (text : String)
  | acceptInvalidCertificates (accept : Bool)
deriving DecidableEq

end Config

/-- The choices of a caller that have been made so far. -/
structure Draft where
  username : Option String := none
  password : Option String := none
  certificatePem : Option String := none
  keyPem : Option String := none
  host : Option String := none
  port : Option UInt16 := none
  baseUrl : Option String := none
  userAgentPrefix : Option String := none
  acceptInvalidCertificates : Bool := false

namespace Draft

/-- The draft after one more choice; the last choice counts. -/
def set (draft : Draft) : Config.Setting → Draft
  | .basicAuth username password =>
    { draft with username := some username, password := some password }
  | .identityCertificate certificate key =>
    { draft with certificatePem := some certificate, keyPem := some key }
  | .host text => { draft with host := some text }
  | .port number => { draft with port := some number }
  | .baseUrl text => { draft with baseUrl := some text }
  | .userAgentPrefix text => { draft with userAgentPrefix := some text }
  | .acceptInvalidCertificates accept => { draft with acceptInvalidCertificates := accept }

/-- The draft that a series of choices makes. -/
def ofSettings (settings : List Config.Setting) : Draft :=
  settings.foldl set {}

/-- The credentials of a draft, which has a username or a certificate but not both. -/
def credentials (draft : Draft) : Traced Credentials :=
  match draft.username, draft.certificatePem with
  | some _, some _ => .fail .conflictingCredentials
  | none, none => .fail .missingCredentials
  | some username, none => do
    let username ← Traced.ofExcept (Username.of username)
    return .basic username ⟨draft.password.getD ""⟩
  | none, some certificate => do
    let identity ← IdentityCertificate.load certificate (draft.keyPem.getD "")
    return .certificate identity

/-- The host of a draft. -/
def checkedHost (draft : Draft) : Except ClientError Host :=
  match draft.host with
  | none => .ok .standard
  | some text => Host.of text

/-- The base URL of a draft for a checked host. -/
def checkedBaseUrl (draft : Draft) (host : Host) : Except ClientError BaseUrl :=
  match draft.baseUrl with
  | none => .ok (BaseUrl.ofHost host (draft.port.getD Config.standardPort))
  | some text => BaseUrl.of text

/-- The configuration of a draft. The credentials are checked first, then the host, which is checked
even if there is a base URL, and then the base URL. -/
def build (draft : Draft) : Traced Config := do
  let credentials ← draft.credentials
  let host ← Traced.ofExcept draft.checkedHost
  let baseUrl ← Traced.ofExcept (draft.checkedBaseUrl host)
  return {
    credentials
    host
    port := draft.port.getD Config.standardPort
    baseUrl
    userAgentPrefix := draft.userAgentPrefix
    acceptInvalidCertificates := draft.acceptInvalidCertificates }

/-- The text for people to read of a draft. Nothing in a draft is hidden. -/
def inspect (draft : Draft) : String :=
  let text := inspectOption Quoted.quote
  inspectFields "CandlepinConfigBuilder"
    [("username", text draft.username),
      ("password", text draft.password),
      ("cert_pem", text draft.certificatePem),
      ("key_pem", text draft.keyPem),
      ("host", text draft.host),
      ("port", inspectOption (fun port => toString port.toNat) draft.port),
      ("base_url", text draft.baseUrl),
      ("user_agent_prefix", text draft.userAgentPrefix),
      ("accept_invalid_certs", inspectBool draft.acceptInvalidCertificates)]

end Draft

end EntitlementClient
