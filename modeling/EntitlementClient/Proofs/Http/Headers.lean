/-
Names of headers without regard to the case of their letters: what a message has under a name when
the client sets a header of that name, when the caller gives one, and when both do. Every name stands
in a message once, for the caller's header or else for the client's own, if and only if no two names
that come together differ in the case of their letters alone and the caller leaves the authorization
to a client that has its own.
-/
import EntitlementClient.Proofs.Http.Setup
import EntitlementClient.Proofs.Json.NameMap

namespace EntitlementClient.Http

/-- The values of the headers with a name, in whatever case of the letters. -/
def valuesNamed (name : String) (headers : List (String × String)) : List String :=
  (headers.filter fun h => lowerName h.1 == lowerName name).map (·.2)

variable {name spelling : String} {headers : List (String × String)}

@[simp] theorem valuesNamed_append (name : String) (a b : List (String × String)) :
    valuesNamed name (a ++ b) = valuesNamed name a ++ valuesNamed name b := by
  simp [valuesNamed]

theorem valuesNamed_eq_nil : valuesNamed name headers = [] ↔ ∀ h ∈ headers, lowerName h.1 ≠ lowerName name := by
  simp only [valuesNamed, List.map_eq_nil_iff, List.filter_eq_nil_iff, beq_iff_eq, ne_eq]

theorem valuesNamed_cons_of_ne (ne : lowerName spelling ≠ lowerName name) (value : String)
    (headers : List (String × String)) :
    valuesNamed name ((spelling, value) :: headers) = valuesNamed name headers := by
  simp [valuesNamed, ne]

theorem valuesNamed_congr (h : lowerName name = lowerName spelling) (headers : List (String × String)) :
    valuesNamed name headers = valuesNamed spelling headers := by
  rw [valuesNamed, h, valuesNamed]

/-- Among headers with different names at most one has a name. -/
theorem length_valuesNamed_le (different : (headers.map fun h => lowerName h.1).Nodup) (name : String) :
    (valuesNamed name headers).length ≤ 1 := by
  have count := List.nodup_iff_count_le_one.1 different (lowerName name)
  rw [List.count, List.countP_map] at count
  rw [valuesNamed, List.length_map, ← List.countP_eq_length_filter]
  exact count

/-- Two headers of one name that stands once are one header. -/
theorem eq_of_length_valuesNamed_le {h h' : String × String} (once : (valuesNamed name headers).length ≤ 1)
    (mem : h ∈ headers) (hn : lowerName h.1 = lowerName name) (mem' : h' ∈ headers)
    (hn' : lowerName h'.1 = lowerName name) : h = h' := by
  rw [valuesNamed, List.length_map] at once
  have found : h ∈ headers.filter fun h => lowerName h.1 == lowerName name := List.mem_filter.2 ⟨mem, beq_iff_eq.2 hn⟩
  have found' : h' ∈ headers.filter fun h => lowerName h.1 == lowerName name :=
    List.mem_filter.2 ⟨mem', beq_iff_eq.2 hn'⟩
  rcases eq : headers.filter fun h => lowerName h.1 == lowerName name with _ | ⟨only, rest⟩
  · rw [eq] at found; cases found
  · rw [eq, List.length_cons] at once
    have none_after : rest = [] := List.eq_nil_of_length_eq_zero (by omega)
    rw [eq, none_after, List.mem_singleton] at found found'
    rw [found, found']

/-- Under a name whose headers are all spelled alike a map has what stands under that spelling. -/
theorem valuesNamed_entries (map : NameMap String) (hn : lowerName spelling = lowerName name)
    (alike : ∀ h ∈ map.entries, lowerName h.1 = lowerName name → h.1 = spelling) :
    valuesNamed name map.entries = (map.get? spelling).toList := by
  have spelled : ∀ h ∈ map.entries, (lowerName h.1 == lowerName name) = (h.1 == spelling) := by
    intro h hh
    rw [Bool.eq_iff_iff, beq_iff_eq, beq_iff_eq]
    exact ⟨alike h hh, fun eq => eq ▸ hn⟩
  rw [← NameMap.valuesOf_entries, valuesOf, valuesNamed, List.filter_congr spelled]

namespace Client

/-! ## The headers of a message -/

/-- The headers that a caller gives. -/
def callers (request : Request) : List (String × String) :=
  (request.headers.getD .empty).entries

/-- The headers that a client sets and a caller can replace. -/
def settled (client : Client) (request : Request) : NameMap String :=
  client.headers { request with headers := none }

/-- The names of those headers. -/
def settledNames (request : Request) : List String :=
  acceptHeader :: (request.bodyType.map fun _ => contentTypeHeader).toList ++ [userAgentHeader]

/-- The headers that a client sets itself, all together. -/
def own (client : Client) (agent : String) (request : Request) : List (String × String) :=
  (acceptHeader, request.accept.name) :: contentType request.bodyType ++ (userAgentHeader, agent) ::
    client.authorization

variable {client : Client} {agent : String} {request : Request}

/-- A header is the caller's, or else the client's, by its exact spelling. -/
theorem get?_headers (client : Client) (request : Request) (spelling : String) :
    (client.headers request).get? spelling =
      ((request.headers.getD .empty).get? spelling).or ((client.settled request).get? spelling) := by
  have added : client.headers request =
      (request.headers.getD .empty).entries.foldl (fun map h => map.insert h.1 h.2) (client.settled request) := rfl
  rw [added, NameMap.get?_foldl_insert, ← NameMap.get?_eq_getLast?]

theorem mem_headers {h : String × String} (mem : h ∈ (client.headers request).entries) :
    h ∈ callers request ∨ h ∈ (client.settled request).entries :=
  NameMap.mem_of_mem_foldl_insert _ _ mem

theorem get?_callers {h : String × String} (given : h ∈ callers request) :
    (client.headers request).get? h.1 = some h.2 := by
  rw [get?_headers, NameMap.mem_entries.1 given]
  rfl

theorem settled_entries (hd : client.defaultHeaders = NameMap.ofList [(userAgentHeader, agent)]) (request : Request) :
    (client.settled request).entries ++ client.authorization = client.own agent request := by
  have sent : (client.message { request with headers := none }).headers = client.own agent request :=
    message_headers hd rfl
  exact sent

theorem settled_names (hd : client.defaultHeaders = NameMap.ofList [(userAgentHeader, agent)]) (request : Request) :
    (client.settled request).entries.map (·.1) = settledNames request := by
  have entries := settled_entries hd request
  rw [own, List.append_cons, List.append_cancel_right_eq] at entries
  rw [entries, settledNames, contentType]
  rcases request.bodyType with _ | type <;> rfl

/-- A client has one authorization at most. -/
theorem authorization_cases (client : Client) : client.basicAuth = none ∧ client.authorization = [] ∨
    client.basicAuth.isSome ∧ ∃ token, client.authorization = [(authorizationHeader, token)] := by
  unfold authorization
  rcases client.basicAuth with _ | ⟨username, password⟩
  · exact .inl ⟨rfl, rfl⟩
  · exact .inr ⟨rfl, _, rfl⟩

theorem nodup_own (client : Client) (agent : String) (request : Request) :
    ((client.own agent request).map fun h => lowerName h.1).Nodup := by
  unfold own contentType
  rcases client.authorization_cases with ⟨-, set⟩ | ⟨-, token, set⟩ <;> rw [set] <;>
    rcases request.bodyType with _ | type
  · show [lowerName acceptHeader, lowerName userAgentHeader].Nodup
    decide
  · show [lowerName acceptHeader, lowerName contentTypeHeader, lowerName userAgentHeader].Nodup
    decide
  · show [lowerName acceptHeader, lowerName userAgentHeader, lowerName authorizationHeader].Nodup
    decide
  · show [lowerName acceptHeader, lowerName contentTypeHeader, lowerName userAgentHeader,
      lowerName authorizationHeader].Nodup
    decide

theorem nodup_settled (hd : client.defaultHeaders = NameMap.ofList [(userAgentHeader, agent)]) (request : Request) :
    ((client.settled request).entries.map fun h => lowerName h.1).Nodup := by
  have different := client.nodup_own agent request
  rw [← settled_entries hd, List.map_append] at different
  exact (List.nodup_append.1 different).1

/-- Under a name of which the caller gives no header a message has what the client sets. -/
theorem valuesNamed_message_own (hd : client.defaultHeaders = NameMap.ofList [(userAgentHeader, agent)])
    (none_given : valuesNamed name (callers request) = []) :
    valuesNamed name (client.message request).headers = valuesNamed name (client.own agent request) := by
  have others := valuesNamed_eq_nil.1 none_given
  rw [← settled_entries hd]
  show valuesNamed name ((client.headers request).entries ++ client.authorization) = _
  rw [valuesNamed_append, valuesNamed_append]
  congr 1
  by_cases set : ∃ h ∈ (client.settled request).entries, lowerName h.1 = lowerName name
  · obtain ⟨h, mem, hn⟩ := set
    have alike : ∀ h' ∈ (client.settled request).entries, lowerName h'.1 = lowerName name → h'.1 = h.1 := by
      intro h' mem' hn'
      rw [eq_of_length_valuesNamed_le (length_valuesNamed_le (nodup_settled hd request) name) mem' hn' mem hn]
    have together : ∀ h' ∈ (client.headers request).entries, lowerName h'.1 = lowerName name → h'.1 = h.1 := by
      intro h' mem' hn'
      rcases mem_headers mem' with given | mem'
      · exact absurd hn' (others h' given)
      · exact alike h' mem' hn'
    have not_given : (request.headers.getD .empty).get? h.1 = none := by
      rw [Option.eq_none_iff_forall_not_mem]
      intro value found
      exact others (h.1, value) (NameMap.mem_entries.2 found) hn
    rw [valuesNamed_entries _ hn together, valuesNamed_entries _ hn alike, get?_headers, not_given, Option.none_or]
  · have unset : ∀ h ∈ (client.settled request).entries, lowerName h.1 ≠ lowerName name :=
      fun h mem hn => set ⟨h, mem, hn⟩
    rw [valuesNamed_eq_nil.2 unset, valuesNamed_eq_nil]
    intro h mem
    rcases mem_headers mem with given | mem
    · exact others h given
    · exact unset h mem

/-- A caller's header takes the place of the client's if no header of its name is spelled otherwise. -/
theorem valuesNamed_message_callers {h : String × String} (given : h ∈ callers request)
    (alike : ∀ h' ∈ callers request ++ (client.settled request).entries, lowerName h'.1 = lowerName h.1 → h'.1 = h.1)
    (unauthorized : valuesNamed h.1 client.authorization = []) :
    valuesNamed h.1 (client.message request).headers = [h.2] := by
  have together : ∀ h' ∈ (client.headers request).entries, lowerName h'.1 = lowerName h.1 → h'.1 = h.1 :=
    fun h' mem => alike h' (List.mem_append.2 (mem_headers mem))
  show valuesNamed h.1 ((client.headers request).entries ++ client.authorization) = _
  rw [valuesNamed_append, unauthorized, List.append_nil, valuesNamed_entries _ rfl together, get?_callers given]
  rfl

/-! ## Every name once -/

/-- What it means that a message has every header once: it is the caller's, or else the client's own. -/
structure EachOnce (own callers sent : List (String × String)) : Prop where
  once : ∀ name, (valuesNamed name sent).length ≤ 1
  given : ∀ h ∈ callers, valuesNamed h.1 sent = [h.2]
  otherwise : ∀ name, valuesNamed name callers = [] → valuesNamed name sent = valuesNamed name own

/-- Whether the headers of a caller can be told from each other and from the client's: none has a name that
differs from another in the case of its letters alone, and none is an authorization where the client has its
own. -/
structure ToldApart (client : Client) (request : Request) : Prop where
  given : ∀ h ∈ callers request, ∀ h' ∈ callers request, lowerName h.1 = lowerName h'.1 → h.1 = h'.1
  settled : ∀ h ∈ callers request, ∀ name ∈ settledNames request, lowerName h.1 = lowerName name → h.1 = name
  authorization : client.basicAuth.isSome → valuesNamed authorizationHeader (callers request) = []

theorem EachOnce.toldApart (hd : client.defaultHeaders = NameMap.ofList [(userAgentHeader, agent)])
    (h : EachOnce (client.own agent request) (callers request) (client.message request).headers) :
    ToldApart client request := by
  have sent : (client.message request).headers = (client.headers request).entries ++ client.authorization := rfl
  have given : ∀ h' ∈ callers request, h' ∈ (client.headers request).entries := fun h' mem =>
    NameMap.mem_entries.2 (get?_callers mem)
  have alike : ∀ a ∈ (client.headers request).entries, ∀ b ∈ (client.headers request).entries,
      lowerName a.1 = lowerName b.1 → a = b := fun a ha b hb eq =>
    eq_of_length_valuesNamed_le (h.once b.1) (sent ▸ List.mem_append_left _ ha) eq
      (sent ▸ List.mem_append_left _ hb) rfl
  refine ⟨fun a ha b hb eq => congrArg Prod.fst (alike a (given a ha) b (given b hb) eq), ?_, ?_⟩
  · intro a ha name known eq
    rw [← settled_names hd, List.mem_map] at known
    obtain ⟨⟨name', value⟩, mem, rfl⟩ := known
    have found : ∃ value', (client.headers request).get? name' = some value' := by
      rw [get?_headers, NameMap.mem_entries.1 mem]
      rcases (request.headers.getD .empty).get? name' with _ | value' <;> exact ⟨_, rfl⟩
    obtain ⟨value', found⟩ := found
    rw [alike a (given a ha) (name', value') (NameMap.mem_entries.2 found) eq]
  · intro basic
    rcases client.authorization_cases with ⟨none_there, -⟩ | ⟨-, token, set⟩
    · rw [none_there] at basic; cases basic
    · -- the client's own authorization leaves no room for another one
      have room := h.once authorizationHeader
      have one : (valuesNamed authorizationHeader [(authorizationHeader, token)]).length = 1 := by simp [valuesNamed]
      rw [sent, set, valuesNamed_append, List.length_append, one] at room
      have none_before := List.eq_nil_of_length_eq_zero (Nat.le_zero.1 (Nat.le_of_add_le_add_right (b := 1) room))
      exact valuesNamed_eq_nil.2 fun a ha => valuesNamed_eq_nil.1 none_before a (given a ha)

theorem ToldApart.eachOnce (hd : client.defaultHeaders = NameMap.ofList [(userAgentHeader, agent)])
    (h : ToldApart client request) :
    EachOnce (client.own agent request) (callers request) (client.message request).headers := by
  have given : ∀ a ∈ callers request, valuesNamed a.1 (client.message request).headers = [a.2] := by
    intro a ha
    refine valuesNamed_message_callers ha ?_ ?_
    · intro b hb eq
      rcases List.mem_append.1 hb with hb | hb
      · exact h.given b hb a ha eq
      · have known : b.1 ∈ settledNames request := settled_names hd request ▸ List.mem_map_of_mem hb
        exact (h.settled a ha b.1 known eq.symm).symm
    · rcases client.authorization_cases with ⟨-, set⟩ | ⟨basic, token, set⟩
      · rw [set]; rfl
      · rw [set, valuesNamed_eq_nil]
        intro b hb eq
        rw [List.mem_singleton.1 hb] at eq
        exact valuesNamed_eq_nil.1 (h.authorization basic) a ha eq.symm
  refine ⟨fun name => ?_, given, fun name => valuesNamed_message_own hd⟩
  by_cases none_given : valuesNamed name (callers request) = []
  · rw [valuesNamed_message_own hd none_given]
    exact length_valuesNamed_le (nodup_own client agent request) name
  · have found : ∃ a ∈ callers request, lowerName name = lowerName a.1 := by
      rw [valuesNamed_eq_nil] at none_given
      push Not at none_given
      obtain ⟨a, ha, eq⟩ := none_given
      exact ⟨a, ha, eq.symm⟩
    obtain ⟨a, ha, eq⟩ := found
    rw [valuesNamed_congr eq, given a ha]
    exact Nat.le_refl 1

/-- By its exact spelling a message has the caller's header, or else the client's, and besides these the
authorization. Regardless of the letters' case every name stands once, for the caller's header or else for the
client's own, if and only if the headers can be told apart. -/
theorem headers_once_iff {config : Config} (h : (ofConfig config).result = .ok client) (request : Request) :
    (∀ spelling, valuesOf spelling (client.message request).headers =
      (((request.headers.getD .empty).get? spelling).or ((client.settled request).get? spelling)).toList ++
        valuesOf spelling client.authorization) ∧
    (EachOnce (client.own (userAgent config.userAgentPrefix) request) (callers request)
      (client.message request).headers ↔ ToldApart client request) := by
  obtain ⟨-, -, hd⟩ := ofConfig_ok h
  refine ⟨fun spelling => ?_, EachOnce.toldApart hd, ToldApart.eachOnce hd⟩
  show valuesOf spelling ((client.headers request).entries ++ client.authorization) = _
  rw [valuesOf_append, NameMap.valuesOf_entries, get?_headers]

theorem admin_not_blank : Text.isAllBlank "admin".toList = false := by decide

/-- A configuration with a username and a password. -/
def adminConfig : Config :=
  passwordConfig ⟨"admin", admin_not_blank⟩ ⟨"secret"⟩

/-- The client of the configuration. -/
def adminClient : Client :=
  passwordClient ⟨"admin", admin_not_blank⟩ ⟨"secret"⟩

/-- A request to read with headers of the caller's. -/
def readWith (headers : List (String × String)) : Request :=
  { method := .get, path := "/owners", headers := some (NameMap.ofList headers) }

/-- A caller who asks for another type, and spells the header as the client does, gets it. -/
theorem headers_once_accept :
    (ofConfig adminConfig).result = .ok adminClient ∧
      EachOnce (adminClient.own (userAgent none) (readWith [("Accept", "text/csv"), ("X-Trace", "1")]))
        (callers (readWith [("Accept", "text/csv"), ("X-Trace", "1")]))
        (adminClient.message (readWith [("Accept", "text/csv"), ("X-Trace", "1")])).headers := by
  have client : (ofConfig adminConfig).result = .ok adminClient := rfl
  have apart : ToldApart adminClient (readWith [("Accept", "text/csv"), ("X-Trace", "1")]) :=
    ⟨by decide +kernel, by decide +kernel, fun _ => by decide +kernel⟩
  exact ⟨client, (headers_once_iff client _).2.2 apart⟩

/-- Spelled otherwise the header comes beside that of the client, and so does an authorization. -/
theorem headers_twice :
    ((readWith [("accept", "text/csv")]).verify = .ok () ∧
      (adminClient.message (readWith [("accept", "text/csv")])).isSendable = true ∧
      (adminClient.message (readWith [("accept", "text/csv")])).headers =
        [("Accept", "application/json"), ("User-Agent", userAgent none), ("accept", "text/csv"),
          ("authorization", "Basic YWRtaW46c2VjcmV0")] ∧
      valuesNamed "Authorization" (adminClient.message (readWith [("Authorization", "Bearer t")])).headers =
        ["Bearer t", "Basic YWRtaW46c2VjcmV0"]) ∧
    ¬EachOnce (adminClient.own (userAgent none) (readWith [("accept", "text/csv")]))
      (callers (readWith [("accept", "text/csv")])) (adminClient.message (readWith [("accept", "text/csv")])).headers :=
  ⟨by decide +kernel, fun each => absurd (each.once "Accept") (by decide +kernel)⟩

end Client

end EntitlementClient.Http
