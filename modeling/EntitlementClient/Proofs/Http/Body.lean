/-
Bodies and their types. A request whose body does not fit its type is not put together, goes nowhere and
leaves no line in the log. Any other request is sent without a body, with the string itself or with a text
that stands for the very value, and with the type of the body, unless the caller's headers tell another.
-/
import EntitlementClient.Proofs.Choices
import EntitlementClient.Proofs.Http.Headers
import EntitlementClient.Proofs.Json.Writer

namespace EntitlementClient.Http

namespace Request

/-! ## Bodies that do not fit -/

/-- What is wrong with the body of a request: it has no type, or it is to be sent as text and is no string. -/
inductive Misfit (request : Request) : RequestFault → Prop
  | untyped {body : Json} (there : request.body = some body) (type : request.bodyType = none) :
      Misfit request .missingBodyType
  | notText {body : Json} (there : request.body = some body) (type : request.bodyType = some .text)
      (noString : ∀ s, body ≠ .text s) : Misfit request .textBodyNotString

/-- Whether a body fits its type. -/
def Fits (request : Request) : Prop :=
  ∀ fault, ¬request.Misfit fault

variable {request : Request} {fault : RequestFault}

theorem isText_eq_false_iff {body : Json} : isText body = false ↔ ∀ s, body ≠ .text s := by
  cases body <;> simp [isText]

theorem verify_eq_error_iff : request.verify = .error fault ↔ request.Misfit fault := by
  constructor
  · intro refused
    unfold verify at refused
    split at refused
    · next body there type =>
      cases refused
      exact .untyped there type
    · next body there type =>
      split at refused
      · cases refused
      · next noString =>
        cases refused
        exact .notText there type (isText_eq_false_iff.1 (Bool.eq_false_iff.2 noString))
    · cases refused
  · rintro (⟨there, type⟩ | ⟨there, type, noString⟩)
    · rw [verify, there, type]
    · rw [verify, there, type]
      exact if_neg (Bool.eq_false_iff.1 (isText_eq_false_iff.2 noString))

theorem verify_eq_ok_iff : request.verify = .ok () ↔ request.Fits := by
  constructor
  · intro ok fault misfit
    rw [verify_eq_error_iff.2 misfit] at ok
    cases ok
  · intro fits
    rcases verified : request.verify with fault | ⟨⟩
    · exact absurd (verify_eq_error_iff.1 verified) (fits fault)
    · rfl

/-! ## Bodies as they are sent -/

/-- What is sent for a body that fits its type. -/
structure Carried (request : Request) (sent : Option String) : Prop where
  /-- There is no body if and only if the request has none; `null` is one. -/
  absent : sent = none ↔ request.body = none
  /-- A string that is sent as text stands for itself. -/
  text : ∀ s, request.bodyType = some .text → request.body = some (.text s) → sent = some s
  /-- The text of a value that is sent as JSON stands for that value alone. -/
  json : ∀ value, request.bodyType = some .json → request.body = some value → value.integral = true →
    value.sorted = value → ∃ text, sent = some text ∧ ∀ value', Json.Denotes text.toList value' ↔ value' = value

theorem encodedBody_carried (request : Request) : Carried request request.encodedBody where
  absent := by rw [encodedBody, Option.map_eq_none_iff]
  text := by
    intro s type body
    rw [encodedBody, type, body]
    rfl
  json := by
    intro value type body integral ordered
    refine ⟨value.render, ?_, Json.denotes_render_iff integral ordered⟩
    rw [encodedBody, type, body]
    rfl

/-! ## Putting a request together -/

/-- The body in a choice of one. -/
def Setting.body? : Setting → Option Json
  | .body value => some value
  | _ => none

/-- The type in a choice of one. -/
def Setting.bodyType? : Setting → Option MediaType
  | .bodyType type => some type
  | _ => none

theorem body_set (request : Request) (choice : Setting) : (request.set choice).body = choice.body?.or request.body := by
  cases choice <;> rfl

theorem bodyType_set (request : Request) (choice : Setting) :
    (request.set choice).bodyType = choice.bodyType?.or request.bodyType := by
  cases choice <;> rfl

/-- What every choice leaves as it is or puts in anew is the last that was put in. -/
theorem foldl_set_eq_lastOf? {α : Type} {field : Request → Option α} {chosen : Setting → Option α}
    (step : ∀ request choice, field (set request choice) = (chosen choice).or (field request)) (settings : List Setting)
    (request : Request) : field (setAll request settings) = (lastOf? chosen settings).or (field request) := by
  induction settings generalizing request with
  | nil => rfl
  | cons choice settings ih =>
    have first : setAll request (choice :: settings) = setAll (set request choice) settings := rfl
    rw [first, ih, step, lastOf?_cons, Option.or_assoc]

/-- How a request comes of a series of choices. -/
structure Assembled (method : Method) (path : String) (settings : List Setting) : Prop where
  /-- Its body is the last one that was chosen, and so is the type of the body. -/
  body : (setAll { method, path } settings).body = lastOf? Setting.body? settings
  bodyType : (setAll { method, path } settings).bodyType = lastOf? Setting.bodyType? settings
  /-- There is a request if and only if its body fits its type. -/
  built : ∀ request, build method path settings = .ok request ↔
    setAll { method, path } settings = request ∧ request.Fits
  refused : ∀ fault, build method path settings = .error fault ↔ (setAll { method, path } settings).Misfit fault

theorem build_assembled (method : Method) (path : String) (settings : List Setting) :
    Assembled method path settings where
  body := by rw [foldl_set_eq_lastOf? body_set, Option.or_none]
  bodyType := by rw [foldl_set_eq_lastOf? bodyType_set, Option.or_none]
  built := by
    intro request
    unfold build
    rcases verified : (setAll { method, path } settings).verify with fault | ⟨⟩
    · simp only [verified, reduceCtorEq, false_iff]
      rintro ⟨rfl, fits⟩
      exact fits fault (verify_eq_error_iff.1 verified)
    · simp only [verified, Except.ok.injEq]
      constructor
      · rintro rfl
        exact ⟨rfl, verify_eq_ok_iff.1 verified⟩
      · rintro ⟨rfl, -⟩
        rfl
  refused := by
    intro fault
    rw [← verify_eq_error_iff, build]
    rcases (setAll { method, path } settings).verify with fault' | ⟨⟩ <;> simp

end Request

namespace Client

/-! ## Exchanges -/

variable {client : Client} {request : Request}

/-- The authorization names no type. -/
theorem contentType_authorization (client : Client) : valuesNamed contentTypeHeader client.authorization = [] := by
  rcases client.authorization_cases with ⟨-, set⟩ | ⟨-, token, set⟩
  · rw [set]
    rfl
  · rw [set, valuesNamed_eq_nil]
    intro h mem
    rw [List.mem_singleton.1 mem]
    show lowerName authorizationHeader ≠ lowerName contentTypeHeader
    decide

/-- Among the headers that a client sets only one has the name of the type. -/
theorem eq_of_mem_settledNames {name : String} (mem : name ∈ settledNames request)
    (named : lowerName name = lowerName contentTypeHeader) : name = contentTypeHeader := by
  have accept : lowerName acceptHeader ≠ lowerName contentTypeHeader := by decide
  have userAgent : lowerName userAgentHeader ≠ lowerName contentTypeHeader := by decide
  simp only [settledNames, List.mem_append, List.mem_cons, Option.mem_toList, List.not_mem_nil, or_false,
    Option.map_eq_some_iff] at mem
  rcases mem with (rfl | ⟨type, -, rfl⟩) | rfl
  · exact absurd named accept
  · rfl
  · exact absurd named userAgent

variable {agent : String} (hd : client.defaultHeaders = NameMap.ofList [(userAgentHeader, agent)])

include hd

/-- The type that a message names if the caller's headers name none. -/
theorem contentType_own (none_given : valuesNamed contentTypeHeader (callers request) = []) :
    valuesNamed contentTypeHeader (client.message request).headers = (request.bodyType.map MediaType.name).toList := by
  have accept : lowerName acceptHeader ≠ lowerName contentTypeHeader := by decide
  have userAgent : lowerName userAgentHeader ≠ lowerName contentTypeHeader := by decide
  rw [valuesNamed_message_own hd none_given, own, List.cons_append, valuesNamed_cons_of_ne accept, valuesNamed_append,
    valuesNamed_cons_of_ne userAgent, contentType_authorization, List.append_nil]
  rcases request.bodyType with _ | type
  · rfl
  · simp [valuesNamed, contentType]

/-- The type that a message names if the caller's headers name one, and spell the header as the client does. -/
theorem contentType_callers {type : String} (given : (contentTypeHeader, type) ∈ callers request)
    (alike : ∀ h ∈ callers request, lowerName h.1 = lowerName contentTypeHeader → h.1 = contentTypeHeader) :
    valuesNamed contentTypeHeader (client.message request).headers = [type] := by
  refine valuesNamed_message_callers (h := (contentTypeHeader, type)) given ?_ (contentType_authorization client)
  intro h mem named
  rcases List.mem_append.1 mem with mem | mem
  · exact alike h mem named
  · have own : h.1 ∈ settledNames request := settled_names hd request ▸ List.mem_map_of_mem mem
    exact eq_of_mem_settledNames own named

omit hd

/-- How the body of a request, its type and what is delivered belong together. -/
structure BodyAsTyped (client : Client) (request : Request) : Prop where
  /-- A request is refused if and only if its body does not fit its type, and then nothing happens. -/
  refused : ∀ transport fault,
    (client.exchange transport request).result = .error (.transport (.invalidRequest fault)) ↔
    request.Misfit fault
  silent : ∀ transport fault, request.Misfit fault →
    (client.exchange transport request).messages = [] ∧ (client.exchange transport request).logLines = []
  /-- Nothing but the message of the request is delivered, and it is if it can be. -/
  alone : ∀ transport, ∀ message ∈ (client.exchange transport request).messages, message = client.message request
  delivered : ∀ transport, request.Fits → (client.message request).isSendable = true →
    transport (client.message request) ≠ .unreachable →
      (client.exchange transport request).messages = [client.message request]
  /-- The message has the body of the request as its type demands, and the type with it. -/
  carried : request.Carried (client.message request).body
  typed : valuesNamed contentTypeHeader (callers request) = [] →
    valuesNamed contentTypeHeader (client.message request).headers = (request.bodyType.map MediaType.name).toList
  /-- A type among the caller's headers takes the place of the client's if it is spelled as the client spells it. -/
  replaced : ∀ type, (contentTypeHeader, type) ∈ callers request →
    (∀ h ∈ callers request, lowerName h.1 = lowerName contentTypeHeader → h.1 = contentTypeHeader) →
      valuesNamed contentTypeHeader (client.message request).headers = [type]

/-- Whatever the transport, a request that does not fit is refused in silence, and any other is handed to it as its
body and its type say. What is put together choice by choice obeys the same condition. -/
theorem body_as_typed {config : Config} (h : (ofConfig config).result = .ok client) :
    (∀ request, BodyAsTyped client request) ∧ ∀ method path settings, Request.Assembled method path settings := by
  obtain ⟨-, -, hd⟩ := ofConfig_ok h
  refine ⟨fun request => ?_, Request.build_assembled⟩
  exact
    { refused := fun transport fault => exchange_eq_invalidRequest_iff.trans Request.verify_eq_error_iff
      silent := fun transport fault misfit => (exchange_of_fault (Request.verify_eq_error_iff.2 misfit)).2
      alone := fun transport message => eq_message_of_mem
      delivered := fun transport fits => exchange_messages_of_reached (Request.verify_eq_ok_iff.2 fits)
      carried := request.encodedBody_carried
      typed := contentType_own hd
      replaced := fun type given alike => contentType_callers hd given alike }

/-- A request that posts a body as JSON, with headers of the caller's. -/
def posting (body : Json) (headers : List (String × String)) : Request :=
  { method := .post, path := "/owners", body := some body, bodyType := some .json,
    headers := some (NameMap.ofList headers) }

/-- The value `null` is a body too: it is sent as its text, and as JSON. -/
theorem body_as_typed_null :
    (ofConfig adminConfig).result = .ok adminClient ∧
      (∃ text, (adminClient.message (posting .null [])).body = some text ∧
        ∀ value, Json.Denotes text.toList value ↔ value = .null) ∧
      valuesNamed contentTypeHeader (adminClient.message (posting .null [])).headers = ["application/json"] ∧
      Request.Assembled .post "/owners" [.body .null, .bodyType .json] := by
  have client : (ofConfig adminConfig).result = .ok adminClient := rfl
  obtain ⟨sent, assembled⟩ := body_as_typed client
  exact ⟨client, (sent (posting .null [])).carried.json .null rfl rfl rfl rfl, (sent (posting .null [])).typed rfl,
    assembled _ _ _⟩

/-- A caller's header takes the place of the client's, and JSON is sent under the name of another type. -/
theorem body_typed_otherwise :
    ((posting (.object []) [("Content-Type", "text/plain")]).verify = .ok () ∧
      (adminClient.exchange (fun _ => .lost) (posting (.object []) [("Content-Type", "text/plain")])).messages =
        [adminClient.message (posting (.object []) [("Content-Type", "text/plain")])] ∧
      (adminClient.message (posting (.object []) [("Content-Type", "text/plain")])).body = some "\x7b\x7d") ∧
    valuesNamed contentTypeHeader
      (adminClient.message (posting (.object []) [("Content-Type", "text/plain")])).headers = ["text/plain"] := by
  decide +kernel

end Client

end EntitlementClient.Http
