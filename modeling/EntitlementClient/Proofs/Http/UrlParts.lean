/-
The parts of URLs by the marks between them, and how they come about: a base URL and the path of a
route make a URL with the scheme and the authority of the base, the path of the base followed by
that of the route, and the query of the route.
-/
import EntitlementClient.Http.Client
import EntitlementClient.Proofs.Config.BaseUrl
import EntitlementClient.Proofs.Route.Alphabet
import EntitlementClient.Proofs.Route.Reading

namespace EntitlementClient

open EntitlementClient.Text

/-! ## Parts -/

/-- The parts of a URL. -/
structure UrlParts where
  scheme : List Char
  authority : List Char
  path : List Char
  query : Option (List Char)
  fragment : Option (List Char)
deriving DecidableEq

/-- The parts of a URL: the scheme ends at the first `://`, the fragment starts at the first `#` and
the query at the first `?` before it, and the path starts at the first slash of what is left. -/
def UrlParts.read? (url : List Char) : Option UrlParts :=
  (cutAt? BaseUrl.mark.toList url).map fun (scheme, rest) =>
    let (rest, fragment) := splitFirst '#' rest
    let (rest, query) := splitFirst '?' rest
    { scheme, authority := rest.takeWhile (· != '/'), path := rest.dropWhile (· != '/'), query, fragment }

/-- What stands after a character that ends the search does not count. -/
theorem Text.takeWhile_append_cons {p : Char → Bool} {c : Char} (hc : p c = false) (t : List Char) :
    ∀ s : List Char, (s ++ c :: t).takeWhile p = s.takeWhile p
  | [] => by simp [hc]
  | d :: s => by
    rw [List.cons_append, List.takeWhile_cons, List.takeWhile_cons, takeWhile_append_cons hc t s]

theorem Text.dropWhile_append_cons {p : Char → Bool} {c : Char} (hc : p c = false) (t : List Char) :
    ∀ s : List Char, (s ++ c :: t).dropWhile p = s.dropWhile p ++ c :: t
  | [] => by simp [hc]
  | d :: s => by
    rw [List.cons_append, List.dropWhile_cons, List.dropWhile_cons, dropWhile_append_cons hc t s]
    split <;> rfl

/-! ## Paths of routes -/

/-- The path and the query of a route are found at the first `?`. -/
theorem Route.splitFirst_path (route : Route) :
    splitFirst '?' route.path.toList = (route.address.pathText, route.address.query.map (·.text)) := by
  have hp : ∀ c ∈ route.address.pathText, c ≠ '?' := fun c hc => by simpa using route.address.pathText_ne c hc
  rw [Route.path, String.toList_ofList, Address.text, splitFirst_append hp, Address.queryText]
  rcases route.address.query with _ | query
  · simp
  · simp

/-! ## Base URLs -/

namespace BaseUrl.Accepted

variable {url : BaseUrl}

/-- Where the scheme ends, in bytes from the start of the text, is a place between two characters. -/
theorem slice_scheme (h : url.Accepted) :
    Utf8.slice? (Utf8.length url.scheme.toList) url.text.toList = some url.scheme.toList := by
  rw [cutAt?_eq_some h.cut, List.append_assoc, Utf8.slice?_length]

theorem splitFirst_rest (h : url.Accepted) :
    splitFirst '#' url.rest.toList = (url.rest.toList, none) ∧
      splitFirst '?' url.rest.toList = (url.rest.toList, none) :=
  ⟨splitFirst_of_none fun c hc => (h.plain c hc).2, splitFirst_of_none fun c hc => (h.plain c hc).1⟩

/-- An accepted base URL has a scheme, an authority and a path. -/
theorem read?_text (h : url.Accepted) : UrlParts.read? url.text.toList = some
    { scheme := url.scheme.toList, authority := url.rest.toList.takeWhile (· != '/'),
      path := url.rest.toList.dropWhile (· != '/'), query := none, fragment := none } := by
  rw [UrlParts.read?, h.cut]
  simp only [Option.map_some, h.splitFirst_rest.1, h.splitFirst_rest.2]

theorem authority_ne_nil (h : url.Accepted) : url.rest.toList.takeWhile (· != '/') ≠ [] := by
  obtain ⟨c, s, hr, -, hc⟩ := h.host
  rw [hr, List.takeWhile_cons, if_pos (by simpa using hc)]
  exact List.cons_ne_nil c _

/-- The path of an accepted base URL does not end with a slash. -/
theorem getLast?_path (h : url.Accepted) : (url.rest.toList.dropWhile (· != '/')).getLast? ≠ some '/' := by
  intro hl
  obtain ⟨t, ht⟩ := List.dropWhile_suffix (l := url.rest.toList) (· != '/')
  apply h.last
  rw [← ht, List.getLast?_append, hl]
  rfl

/-- What a route adds to an accepted base URL is its path and its query. -/
theorem read?_append_path (h : url.Accepted) (route : Route) :
    UrlParts.read? (url.text.toList ++ route.path.toList) = some
      { scheme := url.scheme.toList, authority := url.rest.toList.takeWhile (· != '/'),
        path := url.rest.toList.dropWhile (· != '/') ++ route.address.pathText,
        query := route.address.query.map (·.text), fragment := none } := by
  have hf : splitFirst '#' (url.rest.toList ++ route.path.toList) = (url.rest.toList ++ route.path.toList, none) := by
    refine splitFirst_of_none fun c hc => ?_
    rcases List.mem_append.1 hc with hc | hc
    · exact (h.plain c hc).2
    · rw [Route.path, String.toList_ofList] at hc
      exact route.address.text_ne_hash c hc
  have hq : splitFirst '?' (url.rest.toList ++ route.path.toList) =
      (url.rest.toList ++ route.address.pathText, route.address.query.map (·.text)) := by
    rw [splitFirst_append fun c hc => (h.plain c hc).1, route.splitFirst_path]
  obtain ⟨c, s, hp, -⟩ := route.exists_pathText
  rw [UrlParts.read?, cutAt?_append _ h.cut]
  simp only [Option.map_some, hf, hq]
  -- the path of the route starts with a slash, at which the authority ends at the latest
  rw [hp, takeWhile_append_cons (by decide), dropWhile_append_cons (by decide)]

end BaseUrl.Accepted

/-! ## URLs of requests -/

/-- The URL of a request to an accepted base URL falls into the scheme of the base, which is that of
a web server and is found by a cut between two characters, the authority of the base, the path of
the base and the path of the route with one slash between them, the query of the route, and no
fragment. -/
theorem Http.Client.urlFor_parts {raw : String} {client : Client} (h : BaseUrl.of raw = .ok client.baseUrl)
    (route : Route) : ∃ base path query,
      UrlParts.read? client.baseUrl.text.toList = some base ∧
      splitFirst '?' route.path.toList = (path, query) ∧
      UrlParts.read? (client.urlFor route.path).toList = some { base with path := base.path ++ path, query } ∧
      '#' ∉ (client.urlFor route.path).toList ∧
      base.scheme = client.baseUrl.scheme.toList ∧
      (base.scheme.map Char.toLower = "http".toList ∨ base.scheme.map Char.toLower = "https".toList) ∧
      Utf8.slice? (Utf8.length base.scheme) client.baseUrl.text.toList = some base.scheme ∧
      base.authority ≠ [] ∧ base.query = none ∧ base.fragment = none ∧
      base.path.getLast? ≠ some '/' ∧ ∃ c s, path = '/' :: c :: s ∧ c ≠ '/' := by
  obtain ⟨-, ha⟩ := BaseUrl.of_ok h
  have hu : (client.urlFor route.path).toList = client.baseUrl.text.toList ++ route.path.toList := String.toList_append
  refine ⟨_, _, _, ha.read?_text, route.splitFirst_path, ?_, ?_, rfl, ha.scheme, ha.slice_scheme,
    ha.authority_ne_nil, rfl, rfl, ha.getLast?_path, route.exists_pathText⟩
  · rw [hu, ha.read?_append_path route]
  · rw [hu, List.mem_append, not_or]
    constructor
    · rw [BaseUrl.toList_text, List.mem_append, List.mem_append, not_or, not_or]
      refine ⟨⟨fun hc => ?_, by decide⟩, fun hc => (ha.plain '#' hc).2 rfl⟩
      have hm : Char.toLower '#' ∈ client.baseUrl.scheme.toList.map Char.toLower := List.mem_map_of_mem hc
      rcases ha.scheme with hs | hs
      · rw [hs] at hm
        exact absurd hm (by decide)
      · rw [hs] at hm
        exact absurd hm (by decide)
    · intro hc
      rw [Route.path, String.toList_ofList] at hc
      exact route.address.text_ne_hash '#' hc rfl

/-- A client of a server that is reached under a path. -/
def Http.Client.sample : Client where
  baseUrl := ⟨"HTTPS", "cp.example/candlepin"⟩
  basicAuth := none
  presentation := none
  defaultHeaders := .empty

/-- What stands around the base URL is dropped, and an argument that holds marks stays in the query. -/
theorem Http.Client.urlFor_parts_pools :
    BaseUrl.of " HTTPS://cp.example/candlepin//  " = .ok Client.sample.baseUrl ∧
      UrlParts.read? (Client.sample.urlFor (Route.pools { owner := some "a&b#?/" }).path).toList = some
        { scheme := "HTTPS".toList, authority := "cp.example".toList, path := "/candlepin/pools".toList,
          query := some "owner=a%26b%23%3F%2F&".toList, fragment := none } := by
  have hb : BaseUrl.of " HTTPS://cp.example/candlepin//  " = .ok Client.sample.baseUrl := rfl
  obtain ⟨base, path, query, hbase, hsplit, hu, -⟩ := Client.urlFor_parts hb (.pools { owner := some "a&b#?/" })
  have hp : (path, query) = ("/pools".toList, some "owner=a%26b%23%3F%2F&".toList) := hsplit.symm.trans rfl
  have he : base = ⟨"HTTPS".toList, "cp.example".toList, "/candlepin".toList, none, none⟩ :=
    Option.some.inj (hbase.symm.trans rfl)
  cases hp
  subst he
  exact ⟨hb, hu⟩

end EntitlementClient
