/-
Clients that have been set up: what of the configuration a client keeps, and the headers of its
messages.
-/
import EntitlementClient.Proofs.Http.Exchange

namespace EntitlementClient.Http.Client

open EntitlementClient

/-- Setting up a client succeeds with what can be presented for the credentials. -/
theorem ofConfig_result (config : Config) : (ofConfig config).result =
    (presentation? config.credentials).bind fun presentation => .ok
      { baseUrl := config.baseUrl
        basicAuth := basicAuth? config.credentials
        presentation
        defaultHeaders := NameMap.ofList [(userAgentHeader, userAgent config.userAgentPrefix)] } := by
  unfold ofConfig
  cases config.acceptInvalidCertificates <;> rcases presentation? config.credentials with _ | _ <;> rfl

/-- A client keeps the base URL, and of the credentials the username and the password; of its own it
only adds how it calls itself. -/
theorem ofConfig_ok {config : Config} {client : Client} (h : (ofConfig config).result = .ok client) :
    client.baseUrl = config.baseUrl ∧ client.basicAuth = basicAuth? config.credentials ∧
      client.defaultHeaders = NameMap.ofList [(userAgentHeader, userAgent config.userAgentPrefix)] := by
  rw [ofConfig_result] at h
  obtain ⟨presentation, -, h⟩ := exists_of_bind_eq_ok h
  cases h
  exact ⟨rfl, rfl, rfl⟩

/-- A client presents what can be presented for its credentials. -/
theorem ofConfig_presentation {config : Config} {client : Client} (h : (ofConfig config).result = .ok client) :
    presentation? config.credentials = .ok client.presentation := by
  rw [ofConfig_result] at h
  obtain ⟨presentation, presented, h⟩ := exists_of_bind_eq_ok h
  cases h
  exact presented

/-! ## Headers -/

/-- The header that tells the type of a body, if there is one. -/
def contentType (type : Option MediaType) : List (String × String) :=
  (type.map fun t => (contentTypeHeader, t.name)).toList

/-- The headers of a message that a client makes of a request without headers of its own. -/
theorem message_headers {client : Client} {agent : String} {request : Request}
    (hd : client.defaultHeaders = NameMap.ofList [(userAgentHeader, agent)]) (hr : request.headers = none) :
    (client.message request).headers =
      (acceptHeader, request.accept.name) :: contentType request.bodyType ++
        (userAgentHeader, agent) :: client.authorization := by
  have hua : acceptHeader < userAgentHeader := by decide
  have huc : contentTypeHeader < userAgentHeader := by decide
  have hca : ¬contentTypeHeader < acceptHeader := by decide
  have hac : acceptHeader < contentTypeHeader := by decide
  unfold message headers contentType
  rw [hd, hr]
  rcases request.bodyType with _ | type
  · simp only [NameMap.ofList, NameMap.insert, NameMap.empty, insertByName, List.foldl_cons, List.foldl_nil,
      Option.getD_none, if_pos hua, Option.map_none, Option.toList_none, List.cons_append, List.nil_append]
  · simp only [NameMap.ofList, NameMap.insert, NameMap.empty, insertByName, List.foldl_cons, List.foldl_nil,
      Option.getD_none, if_pos hua, if_neg hca, if_pos hac, if_pos huc, Option.map_some, Option.toList_some,
      List.cons_append, List.nil_append]

/-- The configuration that comes of a username and a password alone. -/
def passwordConfig (username : Username) (password : Password) : Config where
  credentials := .basic username password
  host := .standard
  port := Config.standardPort
  baseUrl := .ofHost .standard Config.standardPort
  userAgentPrefix := none
  acceptInvalidCertificates := false

/-- The client of that configuration. -/
def passwordClient (username : Username) (password : Password) : Client where
  baseUrl := .ofHost .standard Config.standardPort
  basicAuth := some (username, password)
  presentation := none
  defaultHeaders := NameMap.ofList [(userAgentHeader, userAgent none)]

end EntitlementClient.Http.Client
