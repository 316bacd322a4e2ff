/-
The session's own consumer: where its uuid comes from, and where its operations go. The uuid in a certificate
is not empty, but that in the reply to a registration may be, and then the operations go to the collection of
all consumers. With any other uuid they go to that consumer alone, also after the removal of dot segments
unless the uuid is one itself.
-/
import EntitlementClient.Proofs.Http.DotSegments
import EntitlementClient.Proofs.Session.Opening
import EntitlementClient.Proofs.Session.RequestLine

namespace EntitlementClient

open EntitlementClient.Text
open EntitlementClient.Http
open EntitlementClient.Config

variable {α : Type}

/-! ## Paths of a consumer -/

/-- Whether a path is that of the collection of all consumers, or leads on from there past an empty segment. -/
def IsCollectionPath (path : List Char) : Prop :=
  path = "/consumers/".toList ∨ "/consumers//".toList <+: path

/-- Whether a path is that of the consumer with a uuid, or leads on from there. -/
def IsConsumerPath (uuid : String) (path : List Char) : Prop :=
  ∃ tail, path = "/consumers/".toList ++ (Percent.encode uuid ++ tail) ∧ (tail = [] ∨ ∃ t, tail = '/' :: t)

theorem Text.Percent.encode_ne_slash (s : String) : ∀ c ∈ encode s, c ≠ '/' := by
  rintro c hc rfl
  exact encode_not_separator s '/' hc (by decide)

theorem Text.Percent.encode_eq_nil {s : String} : encode s = [] ↔ s = "" := by
  have none_written : encode "" = [] := rfl
  exact ⟨fun h => encode_injective (h.trans none_written.symm), fun h => h ▸ none_written⟩

namespace IsConsumerPath

variable {uuid uuid' : String} {path : List Char}

/-- A path is that of one consumer. -/
theorem unique (h : IsConsumerPath uuid path) (h' : IsConsumerPath uuid' path) : uuid = uuid' := by
  have segment : ∀ {s : String} {tail : List Char}, (tail = [] ∨ ∃ t, tail = '/' :: t) →
      (Percent.encode s ++ tail).takeWhile (· != '/') = Percent.encode s := by
    intro s tail ends
    have free : ∀ c ∈ Percent.encode s, (c != '/') = true := fun c hc => by simpa using Percent.encode_ne_slash s c hc
    rw [List.takeWhile_append_of_pos free]
    rcases ends with rfl | ⟨t, rfl⟩ <;> simp
  obtain ⟨tail, rfl, ends⟩ := h
  obtain ⟨tail', eq, ends'⟩ := h'
  have rest := List.append_cancel_left eq
  refine Percent.encode_injective ?_
  rw [← segment ends, rest, segment ends']

theorem iff_eq (h : IsConsumerPath uuid path) {other : String} : IsConsumerPath other path ↔ other = uuid := by
  constructor
  · intro other_path
    exact other_path.unique h
  · rintro rfl
    exact h

/-- The path of a consumer is that of the collection if and only if the uuid is empty. -/
theorem isCollectionPath_iff (h : IsConsumerPath uuid path) : IsCollectionPath path ↔ uuid = "" := by
  obtain ⟨tail, rfl, ends⟩ := h
  have slashes : "/consumers//".toList = "/consumers/".toList ++ ['/'] := rfl
  constructor
  · intro collection
    have first : Percent.encode uuid ++ tail = [] ∨ ∃ t, Percent.encode uuid ++ tail = '/' :: t := by
      rcases collection with whole | start
      · exact .inl (List.append_right_eq_self.1 whole)
      · rw [slashes, List.prefix_append_right_inj] at start
        obtain ⟨t, ht⟩ := start
        exact .inr ⟨t, ht.symm⟩
    -- a segment that holds something would start with what is no slash
    rw [← Percent.encode_eq_nil]
    rcases written : Percent.encode uuid with _ | ⟨c, s⟩
    · rfl
    · rw [written] at first
      rcases first with first | ⟨t, first⟩
      · cases first
      · cases first
        exact absurd rfl (Percent.encode_ne_slash uuid '/' (written ▸ List.mem_cons_self))
  · rintro rfl
    have none_written : Percent.encode "" = [] := rfl
    rw [none_written, List.nil_append]
    rcases ends with rfl | ⟨t, rfl⟩
    · exact .inl (List.append_nil _)
    · exact .inr ⟨t, by simp [slashes]⟩

end IsConsumerPath

namespace ConsumerOperation

/-- The segments of the path of an operation below its consumer. -/
def below : ConsumerOperation α → List String
  | consumePool _ | consumeProduct _ _ | consumeToken _ | listEntitlements _ | revokeAllEntitlements => ["entitlements"]
  | unbindEntitlement id => ["entitlements", id]
  | getCertificates _ => ["certificates"]
  | getCertificateSerials => ["certificates", "serials"]
  | unregister => []

theorem segments_of (uuid : String) (operation : ConsumerOperation α) :
    (operation.of uuid).route.address.segments = "consumers" :: uuid :: operation.below := by
  cases operation <;> rfl

theorem pathText_of (uuid : String) (operation : ConsumerOperation α) :
    (operation.of uuid).route.address.pathText =
      "/consumers/".toList ++ (Percent.encode uuid ++ pathOf (operation.below.map Percent.encode)) := by
  have word : Percent.encode "consumers" = "consumers".toList := Percent.encode_of_plain (by decide)
  rw [Address.pathText_eq_pathOf, segments_of, List.map_cons, List.map_cons, word]
  rfl

/-- The request of an operation has the path of its consumer. -/
theorem isConsumerPath_of (uuid : String) (operation : ConsumerOperation α) :
    IsConsumerPath uuid (operation.of uuid).request.path.toList := by
  have path : (operation.of uuid).request.path.toList =
      (operation.of uuid).route.address.pathText ++ (operation.of uuid).route.address.queryText := String.toList_ofList
  refine ⟨pathOf (operation.below.map Percent.encode) ++ (operation.of uuid).route.address.queryText, ?_, ?_⟩
  · rw [path, pathText_of, List.append_assoc, List.append_assoc]
  · rcases pathOf_cases (operation.below.map Percent.encode) with nothing | ⟨t, further⟩
    · cases operation with
      | unregister => exact .inl rfl
      | _ => cases nothing
    · exact .inr ⟨t ++ _, by rw [further, List.cons_append]⟩

end ConsumerOperation

/-! ## Dot segments below a consumer -/

/-- One more segment after a word takes nothing away but that word. -/
theorem removeDotSegmentsInto_last {segment : List Char} (hs : ∀ c ∈ segment, c ≠ '/') (word : List Char)
    (out : List (List Char)) :
    ∃ t, removeDotSegmentsInto (('/' :: word) :: out) ('/' :: segment) = out.reverse.flatten ++ '/' :: t := by
  by_cases hd : IsDotSegment segment
  · rcases hd with rfl | rfl
    · exact ⟨word ++ ['/'], by simp [removeDotSegmentsInto]⟩
    · exact ⟨[], by simp [removeDotSegmentsInto]⟩
  · have moved := removeDotSegmentsInto_segment hs hd (.inl rfl) (('/' :: word) :: out)
    rw [List.append_nil] at moved
    exact ⟨word ++ '/' :: segment, by rw [moved]; simp [removeDotSegmentsInto]⟩

/-- What an operation has below its consumer takes nothing of the consumer's own path away. -/
theorem ConsumerOperation.removeDotSegmentsInto_below (operation : ConsumerOperation α) (out : List (List Char)) :
    ∃ tail, removeDotSegmentsInto out (pathOf (operation.below.map Percent.encode)) = out.reverse.flatten ++ tail ∧
      (tail = [] ∨ ∃ t, tail = '/' :: t) := by
  have one : ∀ word : String, ¬IsDotSegment (Percent.encode word) →
      removeDotSegmentsInto out (pathOf [Percent.encode word]) = out.reverse.flatten ++ '/' :: Percent.encode word := by
    intro word plain
    have path : pathOf [Percent.encode word] = '/' :: (Percent.encode word ++ []) := rfl
    rw [path, removeDotSegmentsInto_segment (Percent.encode_ne_slash word) plain (.inl rfl)]
    simp [removeDotSegmentsInto]
  have two : ∀ word last : String, ¬IsDotSegment (Percent.encode word) →
      ∃ t, removeDotSegmentsInto out (pathOf [Percent.encode word, Percent.encode last]) =
        out.reverse.flatten ++ '/' :: t := by
    intro word last plain
    obtain ⟨t, ht⟩ := removeDotSegmentsInto_last (Percent.encode_ne_slash last) (Percent.encode word) out
    refine ⟨t, ?_⟩
    have path : pathOf [Percent.encode word, Percent.encode last] =
        '/' :: (Percent.encode word ++ '/' :: Percent.encode last) := by
      simp [pathOf]
    rw [path, removeDotSegmentsInto_segment (Percent.encode_ne_slash word) plain (.inr ⟨_, rfl⟩), ht]
  have entitlements : ¬IsDotSegment (Percent.encode "entitlements") := by rw [isDotSegment_encode]; decide
  have certificates : ¬IsDotSegment (Percent.encode "certificates") := by rw [isDotSegment_encode]; decide
  cases operation with
  | unregister => exact ⟨[], by simp [below, pathOf, removeDotSegmentsInto], .inl rfl⟩
  | unbindEntitlement id =>
    obtain ⟨t, ht⟩ := two "entitlements" id entitlements
    exact ⟨_, ht, .inr ⟨t, rfl⟩⟩
  | getCertificateSerials =>
    obtain ⟨t, ht⟩ := two "certificates" "serials" certificates
    exact ⟨_, ht, .inr ⟨t, rfl⟩⟩
  | getCertificates => exact ⟨_, one "certificates" certificates, .inr ⟨_, rfl⟩⟩
  | _ => exact ⟨_, one "entitlements" entitlements, .inr ⟨_, rfl⟩⟩

/-- Below a path without dot segments the removal leaves the operations of a consumer with that consumer,
unless its uuid is a dot segment. -/
theorem ConsumerOperation.removeDotSegments_of {base : List Char} (absolute : base = [] ∨ ∃ t, base = '/' :: t)
    (clean : ∀ segment ∈ splitWhere (· == '/') base, ¬IsDotSegment segment) {uuid : String}
    (place : uuid ≠ "." ∧ uuid ≠ "..") (operation : ConsumerOperation α) :
    ∃ path, removeDotSegments (base ++ (operation.of uuid).route.address.pathText) = base ++ path ∧
      IsConsumerPath uuid path := by
  obtain ⟨segments, rfl, pieces, hs⟩ := exists_pathOf absolute
  rw [pieces] at clean
  have word : Percent.encode "consumers" = "consumers".toList := Percent.encode_of_plain (by decide)
  have split : pathOf segments ++ (operation.of uuid).route.address.pathText =
      pathOf (segments ++ [Percent.encode "consumers", Percent.encode uuid]) ++
        pathOf (operation.below.map Percent.encode) := by
    rw [Address.pathText_eq_pathOf, segments_of]
    simp [pathOf]
  have free : ∀ segment ∈ segments ++ [Percent.encode "consumers", Percent.encode uuid], ∀ c ∈ segment, c ≠ '/' := by
    intro segment hm
    simp only [List.mem_append, List.mem_cons, List.not_mem_nil, or_false] at hm
    rcases hm with hm | rfl | rfl
    · exact hs segment hm
    · exact Percent.encode_ne_slash _
    · exact Percent.encode_ne_slash _
  have plain : ∀ segment ∈ segments ++ [Percent.encode "consumers", Percent.encode uuid], ¬IsDotSegment segment := by
    intro segment hm
    simp only [List.mem_append, List.mem_cons, List.not_mem_nil, or_false] at hm
    rcases hm with hm | rfl | rfl
    · exact clean segment (List.mem_cons_of_mem _ hm)
    · rw [isDotSegment_encode]; decide
    · rw [isDotSegment_encode, not_or]; exact place
  obtain ⟨tail, removed, ends⟩ := operation.removeDotSegmentsInto_below
    ((segments ++ [Percent.encode "consumers", Percent.encode uuid]).map ('/' :: ·)).reverse
  refine ⟨"/consumers/".toList ++ (Percent.encode uuid ++ tail), ?_, tail, rfl, ends⟩
  rw [removeDotSegments, split, removeDotSegmentsInto_append (pathOf_cases _) free plain, List.append_nil,
    removed, word]
  simp [pathOf, List.flatMap]

namespace Session

variable {settings : List Setting} {opened : Session}

/-! ## The uuid of the session's own consumer -/

/-- What is requested for the session's own consumer is requested for the consumer with its uuid. -/
theorem eq_of_mem_current_requests {session : Session} {transport : Transport} {operation : ConsumerOperation α}
    {request : Request} (h : request ∈ (session.make transport (.current operation)).requests) :
    ∃ uuid, session.currentUuid = .ok uuid ∧ request = (operation.of uuid).request := by
  obtain ⟨operation', comes, rfl⟩ := eq_of_mem_requests h
  rcases own : session.currentUuid with e | uuid
  · rw [own] at comes; cases comes
  · rw [own] at comes
    cases comes
    exact ⟨uuid, rfl, rfl⟩

/-- Where the uuid comes from in a session that has been opened with a series of choices: from the subject of the
certificate, or else from the reply to the last registration. -/
theorem currentUuid_cases (h : (ofDraft (.ofSettings settings)).result = .ok opened) (turns : List Turn) :
    (∃ certificate key subject uuid, last? .identityCertificate settings = some (.identityCertificate certificate key) ∧
      IdentityCertificate.readSubject certificate = .ok subject ∧ subject.userId? = some uuid ∧ uuid ≠ "" ∧
        (opened.after turns).currentUuid = .ok uuid) ∨
      last? .identityCertificate settings = none ∧ ∀ uuid, (opened.after turns).currentUuid = .ok uuid ↔
        (lastRegistered? opened.client turns).bind (·.uuid) = some uuid := by
  obtain ⟨config, hb, ho⟩ := ofDraft_ok h
  obtain ⟨⟨choice, hc, hk⟩, -, -⟩ := Draft.build_ok hb
  have current := (after_knows ho turns).currentUuid
  rcases hc.credentials_ok hk with
    ⟨name, password, -, none_chosen, eq⟩ | ⟨certificate, key, identity, -, chosen, read, eq⟩
  · rw [eq] at current
    refine .inr ⟨none_chosen, fun uuid => ?_⟩
    rw [current]
    rcases (lastRegistered? opened.client turns).bind (·.uuid) with _ | own <;> simp
  · rw [eq] at current
    obtain ⟨subject, hs, hu, -⟩ := IdentityCertificate.read_ok read
    exact .inl ⟨certificate, key, subject, identity.uuid, chosen, hs, hu, identity.uuid_ne_empty, current⟩

/-- What is known of the own consumer of a session that has been opened with a series of choices. -/
structure OwnConsumer (settings : List Setting) (opened : Session) (turns : List Turn) : Prop where
  /-- With a certificate the uuid is read from its subject, and it is not empty. -/
  certified : ∀ certificate key, last? .identityCertificate settings = some (.identityCertificate certificate key) →
    ∃ subject uuid, IdentityCertificate.readSubject certificate = .ok subject ∧ subject.userId? = some uuid ∧
      uuid ≠ "" ∧ (opened.after turns).currentUuid = .ok uuid
  /-- Without one it is that of the consumer that has been registered last, as it came in the reply. -/
  registered : last? .identityCertificate settings = none → ∀ uuid, (opened.after turns).currentUuid = .ok uuid ↔
    (lastRegistered? opened.client turns).bind (·.uuid) = some uuid
  empty : (opened.after turns).currentUuid = .ok "" ↔ last? .identityCertificate settings = none ∧
    (lastRegistered? opened.client turns).bind (·.uuid) = some ""
  /-- What is requested for the session's own consumer goes to the path of that consumer and of no other. -/
  scope : ∀ {α : Type} (transport : Transport) (operation : ConsumerOperation α),
    ∀ request ∈ ((opened.after turns).make transport (.current operation)).requests, ∃ uuid,
      (opened.after turns).currentUuid = .ok uuid ∧ request = (operation.of uuid).request ∧
        ∀ other, IsConsumerPath other request.path.toList ↔ other = uuid
  /-- It goes to the collection of all consumers if and only if the uuid is empty. -/
  collection : ∀ {α : Type} (transport : Transport) (operation : ConsumerOperation α),
    ∀ request ∈ ((opened.after turns).make transport (.current operation)).requests,
      IsCollectionPath request.path.toList ↔ (opened.after turns).currentUuid = .ok ""
  /-- Where the path of the base URL has no dot segments, neither this nor the consumer is lost with them. -/
  resolved : ∀ uuid, (opened.after turns).currentUuid = .ok uuid → uuid ≠ "." ∧ uuid ≠ ".." →
    ∀ {α : Type} (operation : ConsumerOperation α) (base : List Char), (base = [] ∨ ∃ t, base = '/' :: t) →
      (∀ segment ∈ splitWhere (· == '/') base, ¬IsDotSegment segment) →
        ∃ path, removeDotSegments (base ++ (operation.of uuid).route.address.pathText) = base ++ path ∧
          IsConsumerPath uuid path ∧ (IsCollectionPath path ↔ uuid = "")

/-- Whatever a session was opened with and whatever has been done in it, its own consumer has a uuid that is
not empty unless an empty one came with the last registration, and what is requested for it goes to that
consumer alone. -/
theorem after_ownConsumer (h : (ofDraft (.ofSettings settings)).result = .ok opened) (turns : List Turn) :
    OwnConsumer settings opened turns := by
  have source := currentUuid_cases h turns
  exact
    { certified := by
        intro certificate key chosen
        rcases source with ⟨certificate', key', subject, uuid, chosen', found⟩ | ⟨none_chosen, -⟩
        · rw [chosen'] at chosen
          cases chosen
          exact ⟨subject, uuid, found⟩
        · rw [none_chosen] at chosen; cases chosen
      registered := by
        intro none_chosen
        rcases source with ⟨certificate, key, subject, uuid, chosen, -⟩ | ⟨-, own⟩
        · rw [none_chosen] at chosen; cases chosen
        · exact own
      empty := by
        rcases source with ⟨certificate, key, subject, uuid, chosen, -, -, ne, own⟩ | ⟨none_chosen, own⟩
        · simp [chosen, own, ne]
        · rw [own, none_chosen, eq_self_iff_true, true_and]
      scope := by
        intro α transport operation request requested
        obtain ⟨uuid, own, rfl⟩ := eq_of_mem_current_requests requested
        exact ⟨uuid, own, rfl, fun _ => (operation.isConsumerPath_of uuid).iff_eq⟩
      collection := by
        intro α transport operation request requested
        obtain ⟨uuid, own, rfl⟩ := eq_of_mem_current_requests requested
        rw [(operation.isConsumerPath_of uuid).isCollectionPath_iff, own, Except.ok.injEq]
      resolved := by
        intro uuid own place α operation base absolute clean
        obtain ⟨path, removed, consumer⟩ := operation.removeDotSegments_of absolute clean place
        exact ⟨path, removed, consumer, consumer.isCollectionPath_iff⟩ }

/-- A username, a password and the base URL of a server. -/
def sampleChoices : List Setting :=
  [.basicAuth "admin" "secret", .baseUrl "http://candlepin"]

/-- The consumer that was registered with the uuid `u1` is unregistered under its own path. -/
theorem after_ownConsumer_registered : (ofDraft (.ofSettings sampleChoices)).result = .ok sample ∧
    OwnConsumer sampleChoices sample sampleHistory ∧
      ∀ request ∈ ((sample.after sampleHistory).make (replying 204 "") (.current .unregister)).requests,
        ¬IsCollectionPath request.path.toList := by
  have opens : (ofDraft (.ofSettings sampleChoices)).result = .ok sample := rfl
  have known := after_ownConsumer opens sampleHistory
  refine ⟨opens, known, fun request requested collection => ?_⟩
  have empty := (known.collection _ _ request requested).1 collection
  rw [sample_currentUuid] at empty
  exact absurd (Except.ok.inj empty) (by decide)

/-- A registration that is answered with a body. -/
def registering (body : String) : List Turn :=
  [⟨.operation (.register "laptop" none none), answering body⟩]

/-- The consumer that was registered is the one that is unregistered. -/
theorem registering_unregister (body uuid : String)
    (h : ((lastRegistered? sample.client (registering body)).or sample.consumer).bind (·.uuid) = some uuid) :
    (sample.after (registering body)).currentUuid = .ok uuid ∧
      ((sample.after (registering body)).make (replying 204 "") (.current .unregister)).requests =
        [(Operation.unregister uuid).request] := by
  have own : (sample.after (registering body)).currentUuid = .ok uuid := by
    rw [currentUuid_eq, after_credentials, after_consumer, h]
    rfl
  have comes : (Call.current .unregister).operation? (sample.after (registering body)).currentUuid =
      some (.unregister uuid) := by
    rw [own]
    rfl
  exact ⟨own, make_requests comes⟩

/-- A registration may be answered with an empty uuid, and the next call asks for the removal of the whole
collection; the uuid `.` is another way there. -/
theorem after_registered_empty : (ofDraft (.ofSettings sampleChoices)).result = .ok sample ∧
    ((sample.after (registering "\x7b\"uuid\":\"\"\x7d")).currentUuid = .ok "" ∧
      ((sample.after (registering "\x7b\"uuid\":\"\"\x7d")).make (replying 204 "") (.current .unregister)).requests =
        [{ method := .delete, path := "/consumers/" }]) ∧
    (sample.after (registering "\x7b\"uuid\":\".\"\x7d")).currentUuid = .ok "." ∧
      ((sample.after (registering "\x7b\"uuid\":\".\"\x7d")).make (replying 204 "") (.current .unregister)).requests =
        [{ method := .delete, path := "/consumers/." }] ∧
      Target.ofUrl? (sample.client.urlFor "/consumers/.") = some "/consumers/" := by
  obtain ⟨empty, collection⟩ := registering_unregister "\x7b\"uuid\":\"\"\x7d" "" (by decide +kernel)
  obtain ⟨dot, below⟩ := registering_unregister "\x7b\"uuid\":\".\"\x7d" "." (by decide +kernel)
  exact ⟨rfl, ⟨empty, collection⟩, dot, below, by decide +kernel⟩

end Session

end EntitlementClient
