/-
The header by which a client with a username makes itself known: a message has it once, and a server
that reads it finds the username and the password again if and only if the username holds no colon.
What a transport makes of a username in front of a host is not the client's header.
-/
import EntitlementClient.Proofs.Http.Headers
import EntitlementClient.Proofs.Text.Base64
import EntitlementClient.Proofs.Text.Cut

namespace EntitlementClient.Http

open EntitlementClient.Text

/-! ## Reading -/

/-- What the value of the header starts with. -/
def basicScheme : List Char := "Basic ".toList

/-- The username and the password in the value of the header, as a server reads them: what stands
before the first colon and after it in the text that the base64 stands for. -/
def readBasic? (value : String) : Option (String × String) := do
  guard (basicScheme.isPrefixOf value.toList)
  let bytes ← Base64.decode? (value.toList.drop basicScheme.length)
  let text ← Utf8.decode? bytes
  let (username, rest) := splitFirst ':' text
  let password ← rest
  return (String.ofList username, String.ofList password)

namespace Client

theorem toList_basicToken (username password : String) : (basicToken username password).toList =
    basicScheme ++ Base64.encode (Utf8.encode (username.toList ++ ':' :: password.toList)) := by
  have scheme : "Basic ".toList = basicScheme := rfl
  have text : (username ++ ":" ++ password).toList = username.toList ++ ':' :: password.toList := by
    simp [String.toList_append]
  rw [basicToken, String.toList_append, scheme, text, String.toList_ofList]

/-- Two tokens are equal if and only if the username, a colon and the password make one text in both. -/
theorem basicToken_eq_iff {u p u' p' : String} :
    basicToken u p = basicToken u' p' ↔ u ++ ":" ++ p = u' ++ ":" ++ p' := by
  constructor
  · intro h
    have encoded := congrArg String.toList h
    rw [toList_basicToken, toList_basicToken, List.append_cancel_left_eq] at encoded
    have text := congrArg Utf8.decode? (Base64.encode_injective encoded)
    rw [Utf8.decode?_encode, Utf8.decode?_encode, Option.some_inj] at text
    rw [← String.toList_inj]
    simpa [String.toList_append] using text
  · intro h
    rw [basicToken, basicToken, h]

/-- A server reads the text of a token up to its first colon and after it. -/
theorem readBasic?_basicToken {username password before after : String}
    (h : username ++ ":" ++ password = before ++ ":" ++ after) (colon : ':' ∉ before.toList) :
    readBasic? (basicToken username password) = some (before, after) := by
  have free : ∀ c ∈ before.toList, c ≠ ':' := fun c hc => ne_of_mem_of_not_mem hc colon
  have cut : splitFirst ':' (before.toList ++ ':' :: after.toList) = (before.toList, some after.toList) := by
    rw [splitFirst_append free, splitFirst_cons_self, List.append_nil]
  have start : basicScheme.isPrefixOf (basicToken before after).toList = true := by
    rw [toList_basicToken, List.isPrefixOf_iff_prefix]
    exact List.prefix_append _ _
  rw [basicToken_eq_iff.2 h]
  unfold readBasic?
  rw [start, toList_basicToken, List.drop_left, Base64.decode?_encode]
  simp [cut, guard]

/-- There is always something that a server reads. -/
theorem exists_first_colon (username password : String) :
    ∃ before after, username ++ ":" ++ password = before ++ ":" ++ after ∧ ':' ∉ before.toList := by
  have there : ':' ∈ username.toList ++ ':' :: password.toList := by simp
  obtain ⟨before, after, eq, colon⟩ := List.eq_append_cons_of_mem there
  refine ⟨String.ofList before, String.ofList after, ?_, by simpa using colon⟩
  rw [← String.toList_inj]
  simpa [String.toList_append] using eq

theorem readBasic?_basicToken_iff {username password : String} :
    readBasic? (basicToken username password) = some (username, password) ↔ ':' ∉ username.toList := by
  constructor
  · intro recovered
    obtain ⟨before, after, text, colon⟩ := exists_first_colon username password
    rw [readBasic?_basicToken text colon] at recovered
    cases recovered
    exact colon
  · exact readBasic?_basicToken rfl

/-- Tokens of usernames without colons tell them and their passwords apart. -/
theorem basicToken_injective {u p u' p' : String} (hu : ':' ∉ u.toList) (hu' : ':' ∉ u'.toList)
    (h : basicToken u p = basicToken u' p') : u = u' ∧ p = p' := by
  have read : readBasic? (basicToken u p) = some (u, p) := readBasic?_basicToken_iff.2 hu
  rw [h, readBasic?_basicToken_iff.2 hu'] at read
  cases read
  exact ⟨rfl, rfl⟩

/-! ## Messages -/

/-- The client has no such header among the others that it sets. -/
theorem authorization_own (client : Client) (agent : String) (request : Request) :
    valuesNamed authorizationHeader (client.own agent request) = client.authorization.map (·.2) := by
  have accept : lowerName acceptHeader ≠ lowerName authorizationHeader := by decide
  have type : lowerName contentTypeHeader ≠ lowerName authorizationHeader := by decide
  have userAgent : lowerName userAgentHeader ≠ lowerName authorizationHeader := by decide
  have untyped : valuesNamed authorizationHeader (contentType request.bodyType) = [] := by
    rcases request.bodyType with _ | t
    · rfl
    · exact valuesNamed_cons_of_ne type _ []
  rw [own, List.cons_append, valuesNamed_cons_of_ne accept, valuesNamed_append, untyped,
    valuesNamed_cons_of_ne userAgent]
  rcases client.authorization_cases with ⟨-, set⟩ | ⟨-, token, set⟩ <;> rw [set]
  · rfl
  · simp [valuesNamed]

/-- The token of credentials that are a username and a password. -/
def token? (credentials : Credentials) : Option String :=
  (basicAuth? credentials).map fun (username, password) => basicToken username.text password.text

/-- A message has the token of the client's credentials, and no other unless the request brings it. -/
theorem authorization_message {config : Config} {client : Client} (h : (ofConfig config).result = .ok client)
    {request : Request} (hr : valuesNamed authorizationHeader (callers request) = []) :
    valuesNamed authorizationHeader (client.message request).headers = (token? config.credentials).toList := by
  obtain ⟨-, hauth, hagent⟩ := ofConfig_ok h
  rw [valuesNamed_message_own hagent hr, authorization_own, authorization, hauth]
  rcases config.credentials with ⟨username, password⟩ | identity <;> rfl

/-- What a server learns from the header of a client that has a username and a password. -/
structure Identifies (client : Client) (username : Username) (password : Password) : Prop where
  /-- A request that brings no such header with it is sent with this one. -/
  once : ∀ request, valuesNamed authorizationHeader (callers request) = [] →
    valuesNamed authorizationHeader (client.message request).headers = [basicToken username.text password.text]
  /-- The server recovers the username and the password if and only if the username has no colon. -/
  recovered : readBasic? (basicToken username.text password.text) = some (username.text, password.text) ↔
    ':' ∉ username.text.toList
  /-- Otherwise the username that it reads ends before the first colon. -/
  read : ∃ before after, username.text ++ ":" ++ password.text = before ++ ":" ++ after ∧ ':' ∉ before.toList ∧
    readBasic? (basicToken username.text password.text) = some (before, after)
  /-- Other credentials have the same header if and only if they make the same text. -/
  same : ∀ (other : Username) (word : Password),
    basicToken other.text word.text = basicToken username.text password.text ↔
    other.text ++ ":" ++ word.text = username.text ++ ":" ++ password.text
  /-- Without colons in the usernames that is only so for the same credentials. -/
  distinct : ':' ∉ username.text.toList → ∀ (other : Username) (word : Password), ':' ∉ other.text.toList →
    basicToken other.text word.text = basicToken username.text password.text →
      other.text = username.text ∧ word.text = password.text

/-- A client whose configuration has a username and a password makes itself known by them. -/
theorem ofConfig_identifies {config : Config} {client : Client} {username : Username} {password : Password}
    (h : (ofConfig config).result = .ok client) (hc : config.credentials = .basic username password) :
    Identifies client username password := by
  exact
    { once := by
        intro request hr
        rw [authorization_message h hr, hc]
        rfl
      recovered := readBasic?_basicToken_iff
      read := by
        obtain ⟨before, after, text, colon⟩ := exists_first_colon username.text password.text
        exact ⟨before, after, text, colon, readBasic?_basicToken text colon⟩
      same := fun other word => basicToken_eq_iff
      distinct := fun colon other word colon' eq => basicToken_injective colon' colon eq }

theorem ofConfig_identifies_admin :
    (ofConfig (passwordConfig ⟨"admin", by decide⟩ ⟨"a:secret"⟩)).result =
        .ok (passwordClient ⟨"admin", by decide⟩ ⟨"a:secret"⟩) ∧
      Identifies (passwordClient ⟨"admin", by decide⟩ ⟨"a:secret"⟩) ⟨"admin", by decide⟩ ⟨"a:secret"⟩ :=
  have client : (ofConfig (passwordConfig ⟨"admin", by decide⟩ ⟨"a:secret"⟩)).result =
      .ok (passwordClient ⟨"admin", by decide⟩ ⟨"a:secret"⟩) := rfl
  ⟨client, ofConfig_identifies client rfl⟩

/-- A username may hold a colon; the server then reads the header as that of another user. -/
theorem readBasic?_colon : Username.of "a:b" = .ok ⟨"a:b", by decide⟩ ∧ Username.of "a" = .ok ⟨"a", by decide⟩ ∧
    basicToken "a:b" "c" = basicToken "a" "b:c" ∧ readBasic? (basicToken "a:b" "c") = some ("a", "b:c") :=
  ⟨rfl, rfl, basicToken_eq_iff.2 (by decide), readBasic?_basicToken (by decide) (by decide)⟩

end Client

end EntitlementClient.Http
