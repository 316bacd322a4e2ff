/-
Sessions: a client with its credentials, and the consumer that it has registered last. Calls are
made one after another; only a registration that succeeds changes the session.
-/
import EntitlementClient.Http.Client
import EntitlementClient.Operation

namespace EntitlementClient

open EntitlementClient.Http

/-- A session. -/
structure Session where
  client : Client
  credentials : Credentials
  consumer : Option Consumer := none

/-- A call: an operation, an operation of a consumer who is named or is the session's own, or a pool
to be created. -/
inductive Call : Type → Type 1
  | operation {α : Type} (operation : Operation α) : Call α
  | scoped {α : Type} (uuid : String) (operation : ConsumerOperation α) : Call α
  | current {α : Type} (operation : ConsumerOperation α) : Call α
  | createPool (pool : NewPool) (today : Date) : Call Pool

namespace Session

/-- The session of a configuration. -/
def ofConfig (config : Config) : Traced Session := do
  let client ← Client.ofConfig config
  return { client, credentials := config.credentials }

/-- The session of a draft. -/
def ofDraft (draft : Draft) : Traced Session := do
  let config ← draft.build
  ofConfig config

/-- The draft for a username and a password. -/
def basicDraft (username password host : String) (port : UInt16) : Draft :=
  .ofSettings [.basicAuth username password, .host host, .port port]

/-- The draft for an identity certificate. -/
def certificateDraft (certificate key host : String) (port : UInt16) : Draft :=
  .ofSettings [.identityCertificate certificate key, .host host, .port port]

/-- The uuid in the credentials. -/
def uuid? (session : Session) : Option String :=
  session.credentials.uuid?

/-- The text of the identity certificate. -/
def identityPem? (session : Session) : Option String :=
  session.credentials.identity?.map (·.certificatePem)

/-- The uuid of the session's own consumer: that of the credentials, or else that of the consumer
that has been registered. -/
def currentUuid (session : Session) : Except ClientError String :=
  match session.uuid? with
  | some uuid => .ok uuid
  | none =>
    match session.consumer.bind (·.uuid) with
    | some uuid => .ok uuid
    | none => .error .noConsumer

/-! ## Calls -/

/-- What is written to the log after an operation has succeeded. -/
def report : {α : Type} → Operation α → α → Traced Unit
  | _, .register name _ _, consumer => Traced.log (.registered name consumer.uuid)
  | _, _, _ => return

/-- Does an operation. -/
def perform {α : Type} (session : Session) (transport : Transport) (operation : Operation α) :
    Traced α := do
  let response ← session.client.exchange transport operation.request
  let a ← Traced.ofExcept (operation.answer.read response operation.request.path)
  report operation a
  return a

/-- What is written to the log before an operation of a consumer. -/
def announce {α : Type} (uuid : String) : ConsumerOperation α → Traced Unit
  | .unregister => Traced.log (.unregistering uuid)
  | _ => return

/-- Does an operation of the consumer with a uuid. -/
def performAs {α : Type} (session : Session) (transport : Transport) (uuid : String)
    (operation : ConsumerOperation α) : Traced α := do
  announce uuid operation
  session.perform transport (operation.of uuid)

/-- Makes a call. -/
def make {α : Type} (session : Session) (transport : Transport) : Call α → Traced α
  | .operation operation => session.perform transport operation
  | .scoped uuid operation => session.performAs transport uuid operation
  | .current operation => do
    -- a session without a consumer of its own fails before anything is sent
    let uuid ← Traced.ofExcept session.currentUuid
    session.performAs transport uuid operation
  | .createPool pool today =>
    match pool.request? today with
    | none => Traced.fail .beyondCalendar
    | some request => session.perform transport (.createPool request)

/-- The consumer that a call has registered. -/
def registered? : {α : Type} → Call α → α → Option Consumer
  | _, .operation (.register _ _ _), consumer => some consumer
  | _, _, _ => none

/-- The session after a call with a result. -/
def learn {α : Type} (session : Session) (call : Call α) : Except ClientError α → Session
  | .error _ => session
  | .ok a =>
    match registered? call a with
    | some consumer => { session with consumer := some consumer }
    | none => session

/-- Makes a call, and gives what comes of it and the session after it. -/
def step {α : Type} (session : Session) (transport : Transport) (call : Call α) :
    Traced α × Session :=
  let trace := session.make transport call
  (trace, session.learn call trace.result)

/-- How the result of a call is understood. -/
def answer {α : Type} : Call α → Answer α
  | .operation operation => operation.answer
  | .scoped uuid operation => (operation.of uuid).answer
  | .current operation => (operation.of "").answer
  | .createPool _ _ => .json Pool.shape

end Session

end EntitlementClient
