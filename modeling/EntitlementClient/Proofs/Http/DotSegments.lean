/-
Dot segments of paths: `.` stands for the place where it is and `..` for the place above it, and both
are removed before a path is used. A path stays as it is under the removal if and only if it has no
dot segment, and for the URL of a request this depends on the arguments in the path of the route.
-/
import EntitlementClient.Http.Target
import EntitlementClient.Operation
import EntitlementClient.Proofs.Http.UrlParts

namespace EntitlementClient

open EntitlementClient.Text EntitlementClient.Http

/-! ## Removal -/

/-- Whether a segment stands for a place in the path. -/
def IsDotSegment (segment : List Char) : Prop :=
  segment = ['.'] ∨ segment = ['.', '.']

instance : DecidablePred IsDotSegment := fun segment =>
  inferInstanceAs (Decidable (segment = ['.'] ∨ segment = ['.', '.']))

/-- Moves the segments of a path to the end of an output, here a list with the last segment first,
and removes dot segments on the way (RFC 3986, section 5.2.4). -/
def removeDotSegmentsInto (out : List (List Char)) (s : List Char) : List Char :=
  if ['.', '.', '/'].isPrefixOf s then removeDotSegmentsInto out (s.drop 3)
  else if ['.', '/'].isPrefixOf s then removeDotSegmentsInto out (s.drop 2)
  else if ['/', '.', '/'].isPrefixOf s then removeDotSegmentsInto out (s.drop 2)
  else if s = ['/', '.'] then removeDotSegmentsInto out ['/']
  else if ['/', '.', '.', '/'].isPrefixOf s then removeDotSegmentsInto (out.drop 1) (s.drop 3)
  else if s = ['/', '.', '.'] then removeDotSegmentsInto (out.drop 1) ['/']
  else if s = ['.'] ∨ s = ['.', '.'] then out.reverse.flatten
  else match s with
    | [] => out.reverse.flatten
    | c :: rest =>
      removeDotSegmentsInto ((c :: rest.takeWhile (· != '/')) :: out) (rest.dropWhile (· != '/'))
termination_by s.length
decreasing_by
  · have := (List.isPrefixOf_iff_prefix.1 ‹_›).length_le
    simp only [List.length_drop, List.length_cons] at *
    omega
  · have := (List.isPrefixOf_iff_prefix.1 ‹_›).length_le
    simp only [List.length_drop, List.length_cons] at *
    omega
  · have := (List.isPrefixOf_iff_prefix.1 ‹_›).length_le
    simp only [List.length_drop, List.length_cons] at *
    omega
  · subst s; simp
  · have := (List.isPrefixOf_iff_prefix.1 ‹_›).length_le
    simp only [List.length_drop, List.length_cons] at *
    omega
  · subst s; simp
  · have := (List.dropWhile_sublist (l := rest) (· != '/')).length_le
    simp only [List.length_cons]
    omega

/-- A path without its dot segments. -/
def removeDotSegments (path : List Char) : List Char :=
  removeDotSegmentsInto [] path

/-! ## One segment -/

/-- A segment that is no dot segment is moved to the output. -/
theorem removeDotSegmentsInto_segment {segment tail : List Char} (hs : ∀ c ∈ segment, c ≠ '/')
    (hd : ¬IsDotSegment segment) (ht : tail = [] ∨ ∃ t, tail = '/' :: t) (out : List (List Char)) :
    removeDotSegmentsInto out ('/' :: (segment ++ tail)) = removeDotSegmentsInto (('/' :: segment) :: out) tail := by
  have htake : (segment ++ tail).takeWhile (· != '/') = segment ∧ (segment ++ tail).dropWhile (· != '/') = tail := by
    have hall : ∀ c ∈ segment, (c != '/') = true := fun c hc => by simpa using hs c hc
    rw [List.takeWhile_append_of_pos hall, List.dropWhile_append_of_pos hall]
    rcases ht with rfl | ⟨t, rfl⟩
    · simp
    · simp
  have h1 : segment ++ tail ≠ ['.'] ∧ segment ++ tail ≠ ['.', '.'] ∧
      ¬['.', '/'] <+: segment ++ tail ∧ ¬['.', '.', '/'] <+: segment ++ tail := by
    -- otherwise what stands before the next slash would be a dot segment
    refine ⟨fun h => hd (.inl ?_), fun h => hd (.inr ?_), fun h => hd (.inl ?_), fun h => hd (.inr ?_)⟩
    · rw [← htake.1, h]; rfl
    · rw [← htake.1, h]; rfl
    · obtain ⟨t, h⟩ := h
      rw [← htake.1, ← h]; rfl
    · obtain ⟨t, h⟩ := h
      rw [← htake.1, ← h]; rfl
  rw [removeDotSegmentsInto]
  simp [List.cons_prefix_cons, h1, htake]

theorem length_flatten_drop_le : ∀ out : List (List Char), (out.drop 1).flatten.length ≤ out.flatten.length
  | [] => Nat.le_refl _
  | segment :: out => by simp

/-- A dot segment is dropped, and a slash at the end of the path stays in its place. -/
theorem removeDotSegmentsInto_dot {segment tail : List Char} (hd : IsDotSegment segment)
    (ht : tail = [] ∨ ∃ t, tail = '/' :: t) (out : List (List Char)) :
    ∃ above rest, above.flatten.length ≤ out.flatten.length ∧ rest.length ≤ tail.length + 1 ∧
      removeDotSegmentsInto out ('/' :: (segment ++ tail)) = removeDotSegmentsInto above rest := by
  rcases hd with rfl | rfl
  · refine ⟨out, if tail = [] then ['/'] else tail, Nat.le_refl _, by split <;> simp_all, ?_⟩
    rw [removeDotSegmentsInto]
    rcases ht with rfl | ⟨t, rfl⟩ <;> simp [List.isPrefixOf]
  · refine ⟨out.drop 1, if tail = [] then ['/'] else tail, length_flatten_drop_le out, by split <;> simp_all, ?_⟩
    rw [removeDotSegmentsInto]
    rcases ht with rfl | ⟨t, rfl⟩ <;> simp [List.isPrefixOf]

/-- Nothing is added. -/
theorem length_removeDotSegmentsInto_le (out : List (List Char)) (s : List Char) :
    (removeDotSegmentsInto out s).length ≤ out.flatten.length + s.length := by
  have hrev : ∀ out : List (List Char), out.reverse.flatten.length = out.flatten.length := fun out => by
    simp [List.length_flatten]
  fun_induction removeDotSegmentsInto out s with
  | case1 out s _ ih => rw [List.length_drop] at ih; omega
  | case2 out s _ _ ih => rw [List.length_drop] at ih; omega
  | case3 out s _ _ _ ih => rw [List.length_drop] at ih; omega
  | case4 out _ _ _ ih => simp only [List.length_cons, List.length_nil] at *; omega
  | case5 out s _ _ _ _ _ ih =>
    have := length_flatten_drop_le out
    rw [List.length_drop] at ih
    omega
  | case6 out _ _ _ _ _ ih =>
    have := length_flatten_drop_le out
    simp only [List.length_cons, List.length_nil] at *
    omega
  | case7 out s => rw [hrev]; omega
  | case8 out => rw [hrev]; omega
  | case9 out c rest _ _ _ _ _ _ _ ih =>
    have := congrArg List.length (List.takeWhile_append_dropWhile (p := (· != '/')) (l := rest))
    simp only [List.flatten_cons, List.length_append, List.length_cons] at *
    omega

/-! ## Paths -/

/-- The path with some segments. -/
def pathOf (segments : List (List Char)) : List Char :=
  segments.flatMap fun segment => '/' :: segment

theorem pathOf_cases (segments : List (List Char)) : pathOf segments = [] ∨ ∃ t, pathOf segments = '/' :: t := by
  cases segments with
  | nil => exact .inl rfl
  | cons segment segments => exact .inr ⟨segment ++ pathOf segments, rfl⟩

/-- Segments that are no dot segments are moved to the output. -/
theorem removeDotSegmentsInto_append {tail : List Char} (ht : tail = [] ∨ ∃ t, tail = '/' :: t) :
    ∀ {segments : List (List Char)}, (∀ segment ∈ segments, ∀ c ∈ segment, c ≠ '/') →
      (∀ segment ∈ segments, ¬IsDotSegment segment) → ∀ out : List (List Char),
        removeDotSegmentsInto out (pathOf segments ++ tail) =
          removeDotSegmentsInto ((segments.map ('/' :: ·)).reverse ++ out) tail
  | [], _, _, out => rfl
  | segment :: segments, hs, hd, out => by
    have next : pathOf segments ++ tail = [] ∨ ∃ t, pathOf segments ++ tail = '/' :: t := by
      rcases pathOf_cases segments with none_left | ⟨t, left⟩
      · rw [none_left]; exact ht
      · exact .inr ⟨t ++ tail, by rw [left, List.cons_append]⟩
    have first : pathOf (segment :: segments) ++ tail = '/' :: (segment ++ (pathOf segments ++ tail)) := by
      simp [pathOf]
    rw [first, removeDotSegmentsInto_segment (hs _ List.mem_cons_self) (hd _ List.mem_cons_self) next,
      removeDotSegmentsInto_append ht (fun s h => hs s (List.mem_cons_of_mem _ h))
        fun s h => hd s (List.mem_cons_of_mem _ h)]
    simp

/-- Without dot segments the whole path is moved to the output. -/
theorem removeDotSegmentsInto_of_none {segments : List (List Char)} (hs : ∀ segment ∈ segments, ∀ c ∈ segment, c ≠ '/')
    (hd : ∀ segment ∈ segments, ¬IsDotSegment segment) (out : List (List Char)) :
    removeDotSegmentsInto out (pathOf segments) = out.reverse.flatten ++ pathOf segments := by
  have moved := removeDotSegmentsInto_append (.inl rfl) hs hd out
  rw [List.append_nil] at moved
  rw [moved]
  simp [removeDotSegmentsInto, pathOf, List.flatMap]

/-- With a dot segment something of the path is lost. -/
theorem length_removeDotSegmentsInto_lt :
    ∀ {segments : List (List Char)}, (∀ segment ∈ segments, ∀ c ∈ segment, c ≠ '/') →
    (∃ segment ∈ segments, IsDotSegment segment) → ∀ out : List (List Char),
    (removeDotSegmentsInto out (pathOf segments)).length < out.flatten.length + (pathOf segments).length
  | [], _, ⟨_, hm, _⟩, _ => by cases hm
  | segment :: segments, hs, ⟨dot, hm, hd⟩, out => by
    show (removeDotSegmentsInto out ('/' :: (segment ++ pathOf segments))).length <
      out.flatten.length + ('/' :: (segment ++ pathOf segments)).length
    by_cases hf : IsDotSegment segment
    · obtain ⟨above, rest, ha, hr, he⟩ := removeDotSegmentsInto_dot hf (pathOf_cases segments) out
      have hl : 1 ≤ segment.length := by rcases hf with rfl | rfl <;> simp
      have := length_removeDotSegmentsInto_le above rest
      rw [he, List.length_cons, List.length_append]
      omega
    · have hm : dot ∈ segments := (List.mem_cons.1 hm).resolve_left fun h => hf (h ▸ hd)
      rw [removeDotSegmentsInto_segment (hs _ List.mem_cons_self) hf (pathOf_cases segments)]
      have := length_removeDotSegmentsInto_lt (fun s h => hs s (List.mem_cons_of_mem _ h)) ⟨dot, hm, hd⟩
        (('/' :: segment) :: out)
      simp only [List.flatten_cons, List.length_append, List.length_cons] at *
      omega

/-- A path stays as it is if and only if it has no dot segment. -/
theorem removeDotSegments_pathOf_iff {segments : List (List Char)} (hs : ∀ segment ∈ segments, ∀ c ∈ segment, c ≠ '/') :
    removeDotSegments (pathOf segments) = pathOf segments ↔ ∀ segment ∈ segments, ¬IsDotSegment segment := by
  constructor
  · intro he segment hm hd
    have := length_removeDotSegmentsInto_lt hs ⟨segment, hm, hd⟩ []
    rw [show removeDotSegmentsInto [] (pathOf segments) = pathOf segments from he] at this
    simp at this
  · intro hd
    exact removeDotSegmentsInto_of_none hs hd []

/-- A path that is empty or starts with a slash is the path with the pieces between its slashes. -/
theorem exists_pathOf {s : List Char} (h : s = [] ∨ ∃ t, s = '/' :: t) : ∃ segments,
    s = pathOf segments ∧ splitWhere (· == '/') s = [] :: segments ∧ ∀ segment ∈ segments, ∀ c ∈ segment, c ≠ '/' := by
  rcases h with rfl | ⟨t, rfl⟩
  · exact ⟨[], rfl, rfl, fun segment hm => by cases hm⟩
  · refine ⟨splitWhere (· == '/') t, (flatMap_splitWhere '/' t).symm, by rw [splitWhere]; rfl, ?_⟩
    intro segment hm c hc
    simpa using mem_splitWhere_of_none segment hm c hc

theorem Address.pathText_eq_pathOf (address : Address) :
    address.pathText = pathOf (address.segments.map Percent.encode) := by
  rw [pathOf, List.flatMap_map]
  rfl

/-- The text of an argument is a dot segment only as it stands: nothing else is written as one. -/
theorem isDotSegment_encode {s : String} : IsDotSegment (Percent.encode s) ↔ s = "." ∨ s = ".." := by
  have h1 : Percent.encode "." = ['.'] := Percent.encode_of_plain (by decide)
  have h2 : Percent.encode ".." = ['.', '.'] := Percent.encode_of_plain (by decide)
  rw [IsDotSegment, ← h2, ← h1]
  exact or_congr ⟨fun h => Percent.encode_injective h, fun h => h ▸ rfl⟩
    ⟨fun h => Percent.encode_injective h, fun h => h ▸ rfl⟩

/-! ## URLs of requests -/

theorem dropWhile_slash_cases (s : List Char) :
    s.dropWhile (· != '/') = [] ∨ ∃ t, s.dropWhile (· != '/') = '/' :: t := by
  rcases hr : s.dropWhile (· != '/') with _ | ⟨c, t⟩
  · exact .inl rfl
  · have hc := List.head?_dropWhile_not (· != '/') s
    rw [hr] at hc
    exact .inr ⟨t, by rw [show c = '/' by simpa using hc]⟩

theorem Address.ne_slash_of_mem_segments (address : Address) :
    ∀ segment ∈ address.segments.map Percent.encode, ∀ c ∈ segment, c ≠ '/' := by
  intro segment hm c hc
  have slash : '/' ∈ Percent.separators := by decide
  simpa using Percent.map_encode_ne slash _ segment hm c hc

/-- An address after a path without dot segments has none if and only if its own segments are none. -/
theorem removeDotSegments_append_pathText_iff {base : List Char} (absolute : base = [] ∨ ∃ t, base = '/' :: t)
    (clean : ∀ segment ∈ splitWhere (· == '/') base, ¬IsDotSegment segment) (address : Address) :
    removeDotSegments (base ++ address.pathText) = base ++ address.pathText ↔
      ∀ s ∈ address.segments, s ≠ "." ∧ s ≠ ".." := by
  obtain ⟨segments, rfl, pieces, hs⟩ := exists_pathOf absolute
  rw [pieces] at clean
  have joined : pathOf segments ++ address.pathText = pathOf (segments ++ address.segments.map Percent.encode) := by
    rw [address.pathText_eq_pathOf, pathOf, pathOf, pathOf, List.flatMap_append]
  have free : ∀ segment ∈ segments ++ address.segments.map Percent.encode, ∀ c ∈ segment, c ≠ '/' := by
    intro segment hm
    rcases List.mem_append.1 hm with hm | hm
    · exact hs segment hm
    · exact address.ne_slash_of_mem_segments segment hm
  rw [joined, removeDotSegments_pathOf_iff free]
  constructor
  · intro none s hm
    have := none (Percent.encode s) (List.mem_append_right _ (List.mem_map_of_mem hm))
    rwa [isDotSegment_encode, not_or] at this
  · intro none segment hm
    rcases List.mem_append.1 hm with hm | hm
    · exact clean segment (List.mem_cons_of_mem _ hm)
    · obtain ⟨s, hs, rfl⟩ := List.mem_map.1 hm
      rw [isDotSegment_encode, not_or]
      exact none s hs

/-- Where the path of an accepted base URL has no dot segment, the path of the URL of a request stays
as it is if and only if no segment of the route's address, be it a word or an argument, is `.` or
`..`. -/
theorem Http.Client.removeDotSegments_urlFor_iff {raw : String} {client : Client}
    (h : BaseUrl.of raw = .ok client.baseUrl) {base : UrlParts}
    (hb : UrlParts.read? client.baseUrl.text.toList = some base)
    (hd : ∀ segment ∈ splitWhere (· == '/') base.path, ¬IsDotSegment segment) (route : Route) :
    ∃ parts, UrlParts.read? (client.urlFor route.path).toList = some parts ∧
      parts.path = base.path ++ route.address.pathText ∧
      (removeDotSegments parts.path = parts.path ↔ ∀ s ∈ route.address.segments, s ≠ "." ∧ s ≠ "..") := by
  obtain ⟨-, ha⟩ := BaseUrl.of_ok h
  have hu : (client.urlFor route.path).toList = client.baseUrl.text.toList ++ route.path.toList := String.toList_append
  rw [ha.read?_text, Option.some.injEq] at hb
  subst hb
  refine ⟨_, by rw [hu, ha.read?_append_path route], rfl, ?_⟩
  exact removeDotSegments_append_pathText_iff (dropWhile_slash_cases _) hd route.address

/-- An entitlement whose id holds a dot is reached under its own path. -/
theorem Http.Client.removeDotSegments_urlFor_entitlement :
    BaseUrl.of " HTTPS://cp.example/candlepin//  " = .ok Client.sample.baseUrl ∧
      removeDotSegments "/candlepin/consumers/u/entitlements/e..1".toList =
        "/candlepin/consumers/u/entitlements/e..1".toList := by
  have hb : BaseUrl.of " HTTPS://cp.example/candlepin//  " = .ok Client.sample.baseUrl := rfl
  obtain ⟨parts, -, hp, hi⟩ := Client.removeDotSegments_urlFor_iff hb rfl (by decide) (.consumerEntitlement "u" "e..1")
  have he : parts.path = "/candlepin/consumers/u/entitlements/e..1".toList := hp.trans rfl
  rw [← he]
  exact ⟨hb, hi.2 (by decide)⟩

/-- To give back the entitlement `..` is to ask for the removal of the consumer. -/
theorem ConsumerOperation.unbindEntitlement_reaches_consumer :
    BaseUrl.of " HTTPS://cp.example/candlepin//  " = .ok Client.sample.baseUrl ∧
      (∃ parts, UrlParts.read?
          (Client.sample.urlFor ((ConsumerOperation.unbindEntitlement "..").of "u").request.path).toList = some parts ∧
        parts.path = "/candlepin/consumers/u/entitlements/..".toList ∧
        removeDotSegments parts.path = "/candlepin/consumers/u/".toList) ∧
      Target.ofUrl? (Client.sample.urlFor ((ConsumerOperation.unbindEntitlement "..").of "u").request.path) =
        some "/candlepin/consumers/u/" := by
  refine ⟨rfl, ⟨⟨"HTTPS".toList, "cp.example".toList, "/candlepin/consumers/u/entitlements/..".toList, none, none⟩,
    rfl, rfl, ?_⟩, rfl⟩
  simp [removeDotSegments, removeDotSegmentsInto]

end EntitlementClient
