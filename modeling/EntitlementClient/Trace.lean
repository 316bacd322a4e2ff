/-
Traces: results together with what has happened on the way to them. Lines are written to the log,
requests are made, and messages are delivered by the transport.
-/
import EntitlementClient.Http.Message

namespace EntitlementClient

open EntitlementClient.Http

/-! ## The log -/

/-- How urgent a line of the log is. -/
inductive LogLevel
  | debug
  | warning
deriving DecidableEq

/-- The name of a level. -/
def LogLevel.name : LogLevel → String
  | .debug => "DEBUG"
  | .warning => "WARN"

/-- A line of the log. -/
inductive LogLine
  | identityLoaded (uuid : String)
  | serverUnverified (baseUrl : String)
  | clientReady (baseUrl mode : String)
  | sending (method : Method) (path : String)
  | answered (method : Method) (path : String) (code : Nat)
  | refused (code : Nat) (method : Method) (path : String)
  | registered (name : String) (uuid : Option String)
  | unregistering (uuid : String)
deriving DecidableEq

namespace LogLine

/-- How urgent the line is. -/
def level : LogLine → LogLevel
  | .serverUnverified _ => .warning
  | .refused _ _ _ => .warning
  | _ => .debug

/-- What the line says. -/
def message : LogLine → String
  | .identityLoaded uuid => "Loaded identity certificate for consumer " ++ uuid
  | .serverUnverified baseUrl =>
    "Server certificate verification is disabled for " ++ baseUrl
  | .clientReady baseUrl mode =>
    "Candlepin client for " ++ baseUrl ++ " using " ++ mode ++ " authentication"
  | .sending method path => method.name ++ " " ++ path
  | .answered method path code => method.name ++ " " ++ path ++ " -> " ++ toString code
  | .refused code method path =>
    "Candlepin returned " ++ toString code ++ " for " ++ method.name ++ " " ++ path
  | .registered name uuid =>
    "Registered consumer " ++ name ++ " as " ++ uuid.getD "<no uuid>"
  | .unregistering uuid => "Unregistering consumer " ++ uuid

/-- The line as it stands in the log. -/
def text (line : LogLine) : String :=
  line.level.name ++ " " ++ line.message

end LogLine

/-! ## Events -/

/-- Something that happens on the way to a result: a line is written to the log, a request is made, or
a message that was handed to the transport is delivered. -/
inductive Event
  | logged (line : LogLine)
  | requested (request : Request)
  | delivered (message : Message)

/-- A result, or what went wrong, and what happened before. -/
structure Traced (α : Type) where
  events : List Event
  result : Except ClientError α

namespace Traced

variable {α β : Type}

/-- A result to which nothing has happened. -/
def ofExcept (result : Except ClientError α) : Traced α :=
  ⟨[], result⟩

/-- A failure. -/
def fail (error : ClientError) : Traced α :=
  ⟨[], .error error⟩

/-- An event. -/
def emit (event : Event) : Traced Unit :=
  ⟨[event], .ok ()⟩

/-- A line that is written to the log. -/
def log (line : LogLine) : Traced Unit :=
  emit (.logged line)

/-- What follows happens after what came before; after a failure nothing follows. -/
protected def bind (first : Traced α) (next : α → Traced β) : Traced β :=
  match first.result with
  | .error error => ⟨first.events, .error error⟩
  | .ok a => ⟨first.events ++ (next a).events, (next a).result⟩

instance : Monad Traced where
  pure a := ⟨[], .ok a⟩
  bind := Traced.bind

/-- The lines that have been written to the log. -/
def logLines (trace : Traced α) : List LogLine :=
  trace.events.filterMap fun
    | .logged line => some line
    | _ => none

/-- The requests that have been made. -/
def requests (trace : Traced α) : List Request :=
  trace.events.filterMap fun
    | .requested request => some request
    | _ => none

/-- The messages that the transport has delivered, each as it was handed over. What the transport sends
on its own is not among them. -/
def messages (trace : Traced α) : List Message :=
  trace.events.filterMap fun
    | .delivered message => some message
    | _ => none

end Traced

end EntitlementClient
