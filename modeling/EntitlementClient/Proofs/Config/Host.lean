/-
Hosts in the URLs that are made of them. A client of the web ends the authority of a URL at a slash, a
backslash, a question mark or a hash sign. Of these a host can hold a backslash alone: without one it is found
in its URL again, with the port beside it, and with one it is cut off there.
-/
import EntitlementClient.Http.Target
import EntitlementClient.Proofs.Config.Acceptance

namespace EntitlementClient

open EntitlementClient.Http EntitlementClient.Text

/-! ## Ports -/

namespace Authority

/-- Whether a bracket is open at the end of a text; `inside` tells that one has been open before it. -/
def isOpen (inside : Bool) (s : List Char) : Bool :=
  s.foldl (fun inside c => c == '[' || inside && c != ']') inside

/-- The host and the port of an authority without its userinfo: the port comes after the last colon outside
brackets; `inside` tells that a bracket is open. -/
def splitPort (inside : Bool) : List Char → List Char × Option (List Char)
  | [] => ([], none)
  | c :: s =>
    match splitPort (c == '[' || inside && c != ']') s with
    | (host, some port) => (c :: host, some port)
    | (host, none) => if c = ':' ∧ inside = false then ([], some host) else (c :: host, none)

theorem splitPort_of_no_colon (inside : Bool) {s : List Char} (h : ∀ c ∈ s, c ≠ ':') :
    splitPort inside s = (s, none) := by
  induction s generalizing inside with
  | nil => rfl
  | cons c s ih =>
    have first : ¬(c = ':' ∧ inside = false) := fun colon => h c List.mem_cons_self colon.1
    rw [splitPort, ih _ fun d hd => h d (List.mem_cons_of_mem c hd)]
    simp only [first, if_false]

/-- A port that holds no colon is found behind whatever leaves no bracket open. -/
theorem splitPort_append {inside : Bool} {s port : List Char} (closed : isOpen inside s = false)
    (h : ∀ c ∈ port, c ≠ ':') : splitPort inside (s ++ ':' :: port) = (s, some port) := by
  induction s generalizing inside with
  | nil =>
    have outside : inside = false := closed
    rw [List.nil_append, splitPort, splitPort_of_no_colon _ h]
    simp only [outside, and_self, if_true]
  | cons c s ih =>
    rw [List.cons_append, splitPort, ih closed]

/-- A bracket that closes leaves none open. -/
theorem isOpen_append_bracket (inside : Bool) (s : List Char) : isOpen inside (s ++ [']']) = false := by
  rw [isOpen, List.foldl_append]
  simp

theorem isOpen_of_no_bracket {s : List Char} (h : ∀ c ∈ s, c ≠ '[') : isOpen false s = false := by
  induction s with
  | nil => rfl
  | cons c s ih =>
    have step : (c == '[' || false && c != ']') = false := by simpa using h c List.mem_cons_self
    rw [isOpen, List.foldl_cons, step]
    exact ih fun d hd => h d (List.mem_cons_of_mem c hd)

theorem userinfo_of_no_at {authority : List Char} (h : ∀ c ∈ authority, c ≠ '@') :
    userinfo? authority = none ∧ afterUserinfo authority = authority := by
  have none : splitFirst '@' authority.reverse = (authority.reverse, none) :=
    splitFirst_of_none fun c hc => h c (List.mem_reverse.1 hc)
  rw [userinfo?, afterUserinfo, none]
  exact ⟨rfl, List.reverse_reverse authority⟩

end Authority

/-! ## Destinations -/

/-- Where a URL leads, by the parts that a client of the web tells apart. -/
structure Destination where
  scheme : List Char
  userinfo : Option (List Char)
  host : List Char
  port : Option (List Char)
  path : List Char
  query : Option (List Char)
  fragment : Option (List Char)
deriving DecidableEq

/-- The destination of a URL by its delimiters alone: the authority ends at the first slash, backslash, question mark
or hash sign, the userinfo at the last `@` of it, and the port comes after the last colon outside brackets. -/
def Destination.read? (url : List Char) : Option Destination :=
  (cutAt? BaseUrl.mark.toList url).map fun (scheme, rest) =>
    let authority := rest.takeWhile fun c => !Target.endsAuthority c
    let (host, port) := Authority.splitPort false (Authority.afterUserinfo authority)
    let (rest, fragment) := splitFirst '#' (rest.dropWhile fun c => !Target.endsAuthority c)
    let (path, query) := splitFirst '?' rest
    { scheme, userinfo := Authority.userinfo? authority, host, port, path, query, fragment }

/-- An authority without userinfo and what stands behind it are read one by one. -/
theorem Destination.read?_https {authority : List Char} (at_ : ∀ c ∈ authority, c ≠ '@')
    (within : ∀ c ∈ authority, Target.endsAuthority c = false) {c : Char} (ends : Target.isSlash c = true)
    {path : List Char} (plain : ∀ d ∈ c :: path, d ≠ '?' ∧ d ≠ '#') :
    Destination.read? ("https".toList ++ BaseUrl.mark.toList ++ (authority ++ c :: path)) = some
      { scheme := "https".toList, userinfo := none, host := (Authority.splitPort false authority).1,
        port := (Authority.splitPort false authority).2, path := c :: path, query := none, fragment := none } := by
  have stops : (!Target.endsAuthority c) = false := by simp [Target.endsAuthority, ends]
  have passes : ∀ d ∈ authority, (!Target.endsAuthority d) = true := fun d hd => by rw [within d hd]; rfl
  have take : (authority ++ c :: path).takeWhile (fun c => !Target.endsAuthority c) = authority := by
    rw [List.takeWhile_append_of_pos passes, List.takeWhile_cons, stops, if_neg Bool.false_ne_true, List.append_nil]
  have drop : (authority ++ c :: path).dropWhile (fun c => !Target.endsAuthority c) = c :: path := by
    rw [List.dropWhile_append_of_pos passes, List.dropWhile_cons, stops, if_neg Bool.false_ne_true]
  obtain ⟨noUserinfo, whole⟩ := Authority.userinfo_of_no_at at_
  rw [read?, BaseUrl.cutAt?_scheme (.inr (by decide))]
  simp only [Option.map_some, take, drop, noUserinfo, whole, splitFirst_of_none fun d hd => (plain d hd).2,
    splitFirst_of_none fun d hd => (plain d hd).1]

namespace Host

/-! ## Characters of a host -/

theorem eq_of_bracketed? {s address : List Char} (h : bracketed? s = some address) : s = '[' :: address ++ [']'] := by
  unfold bracketed? at h
  split at h
  · next rest =>
    split at h
    · next last =>
      cases h
      obtain ⟨front, rfl⟩ := List.getLast?_eq_some_iff.1 last
      simp
    · cases h
  · cases h

theorem isBlank_of_isAddressChar {c : Char} (h : isAddressChar c = true) : isBlank c = false := by
  cases blank : isBlank c with
  | false => rfl
  | true =>
    have others : ∀ n ∈ blanks, isAddressChar (Char.ofNat n) = false := by decide
    have other := others c.toNat (List.contains_iff_mem.1 blank)
    rw [Char.ofNat_toNat, h] at other
    cases other

/-- A host is an address between brackets, or a name without anything that ends one. -/
theorem bracketed_or_name (host : Host) :
    (∃ address, host.text.toList = '[' :: address ++ [']'] ∧ ∀ c ∈ address, isAddressChar c = true) ∨
      ∀ c ∈ host.text.toList, endsName c = false := by
  have valid := host.valid
  unfold isHost at valid
  split at valid
  · next address bracketed =>
    rw [Bool.and_eq_true, List.all_eq_true] at valid
    exact .inl ⟨address, eq_of_bracketed? bracketed, valid.2⟩
  · rw [Bool.and_eq_true, List.all_eq_true] at valid
    exact .inr fun c hc => by simpa using valid.2 c hc

theorem ne_of_endsName {c : Char} (h : endsName c = false) :
    isBlank c = false ∧ ∀ d ∈ "/?#@:[]".toList, c ≠ d := by
  rw [endsName, Bool.or_eq_false_iff] at h
  refine ⟨h.2, ?_⟩
  rintro d hd rfl
  rw [List.contains_iff_mem.2 hd] at h
  cases h.1

/-- No host holds white space or a mark of a URL; only the backslash is let through. -/
theorem isBlank_eq_false (host : Host) : ∀ c ∈ host.text.toList, isBlank c = false := by
  intro c hc
  rcases host.bracketed_or_name with ⟨address, eq, all⟩ | name
  · rw [eq] at hc
    simp only [List.mem_append, List.mem_cons, List.not_mem_nil, or_false] at hc
    rcases hc with (rfl | hc) | rfl
    · decide
    · exact isBlank_of_isAddressChar (all c hc)
    · decide
  · exact (ne_of_endsName (name c hc)).1

theorem ne_mark (host : Host) : ∀ c ∈ host.text.toList, ∀ d ∈ ['/', '?', '#', '@'], c ≠ d := by
  intro c hc d hd
  have others : (d ≠ '[' ∧ isAddressChar d = false ∧ d ≠ ']') ∧ d ∈ "/?#@:[]".toList := by
    simp only [List.mem_cons, List.not_mem_nil, or_false] at hd
    rcases hd with rfl | rfl | rfl | rfl <;> decide
  obtain ⟨⟨first, within, last⟩, mark⟩ := others
  rcases host.bracketed_or_name with ⟨address, eq, all⟩ | name
  · rw [eq] at hc
    simp only [List.mem_append, List.mem_cons, List.not_mem_nil, or_false] at hc
    rcases hc with (rfl | hc) | rfl
    · exact first.symm
    · rintro rfl
      rw [all c hc] at within
      cases within
    · exact last.symm
  · exact (ne_of_endsName (name c hc)).2 d mark

/-- No character of a host but a backslash ends an authority. -/
theorem endsAuthority_eq_false (host : Host) {c : Char} (hc : c ∈ host.text.toList) (h : c ≠ '\\') :
    Target.endsAuthority c = false := by
  have mark := host.ne_mark c hc
  simp [Target.endsAuthority, Target.isSlash, mark, h]

/-- Brackets of a host are closed at its end. -/
theorem isOpen_eq_false (host : Host) : Authority.isOpen false host.text.toList = false := by
  rcases host.bracketed_or_name with ⟨address, eq, -⟩ | name
  · rw [eq]
    exact Authority.isOpen_append_bracket false ('[' :: address)
  · exact Authority.isOpen_of_no_bracket fun c hc => (ne_of_endsName (name c hc)).2 '[' (by decide)

/-- A host with a backslash is a name, in which there is no colon. -/
theorem ne_colon_of_backslash {host : Host} (h : '\\' ∈ host.text.toList) : ∀ c ∈ host.text.toList, c ≠ ':' := by
  rcases host.bracketed_or_name with ⟨address, eq, all⟩ | name
  · rw [eq] at h
    simp only [List.mem_append, List.mem_cons, List.not_mem_nil, or_false] at h
    rcases h with (h | h) | h
    · exact absurd h (by decide)
    · exact absurd (all _ h) (by decide)
    · exact absurd h (by decide)
  · exact fun c hc => (ne_of_endsName (name c hc)).2 ':' (by decide)

/-- The text of a host is taken for the same host. -/
theorem of_text (host : Host) : of host.text = .ok host := by
  have start : trimStart host.text.toList = host.text.toList := by
    cases eq : host.text.toList with
    | nil => rfl
    | cons c s =>
      have first : isBlank c = false := host.isBlank_eq_false c (by rw [eq]; exact List.mem_cons_self)
      rw [trimStart, List.dropWhile_cons, first, if_neg Bool.false_ne_true]
  have trimmed : trim host.text.toList = host.text.toList := by
    rw [trim, start]
    exact dropEndWhile_eq_self fun c last => host.isBlank_eq_false c (List.mem_of_getLast? last)
  simp only [of, trimmed, String.ofList_toList, host.valid, dite_true]

end Host

namespace BaseUrl

/-! ## URLs of hosts -/

/-- The written form of a port. -/
def portText (port : UInt16) : List Char :=
  Nat.toDigits 10 port.toNat

theorem isDigit_portText {port : UInt16} {c : Char} (h : c ∈ portText port) : c.isDigit = true :=
  Nat.isDigit_of_mem_toDigits (by decide) (by decide) h

theorem ne_of_mem_portText {port : UInt16} {c d : Char} (h : c ∈ portText port)
    (other : d.isDigit = false) : c ≠ d := by
  rintro rfl
  rw [isDigit_portText h] at other
  cases other

theorem endsAuthority_of_mem_portText {port : UInt16} {c : Char} (h : c ∈ portText port) :
    Target.endsAuthority c = false := by
  have ne : ∀ d : Char, d.isDigit = false → c ≠ d := fun d => ne_of_mem_portText h
  simp [Target.endsAuthority, Target.isSlash, ne '/' (by decide), ne '\\' (by decide), ne '?' (by decide),
    ne '#' (by decide)]

theorem toList_ofHost (host : Host) (port : UInt16) : (ofHost host port).text.toList =
    "https".toList ++ mark.toList ++ (host.text.toList ++ ':' :: portText port ++ '/' :: "candlepin".toList) := by
  have digits : (toString port.toNat).toList = portText port := Nat.toList_repr
  rw [toList_text, ofHost]
  simp only [String.toList_append, digits]
  simp

theorem plain_path : ∀ d ∈ '/' :: "candlepin".toList, d ≠ '?' ∧ d ≠ '#' := by
  have all : ('/' :: "candlepin".toList).all (fun d => d != '?' && d != '#') = true := by decide
  intro d hd
  simpa using List.all_eq_true.1 all d hd

/-- The destination that a host and a port stand for. -/
def destination (host : Host) (port : UInt16) : Destination :=
  { scheme := "https".toList, userinfo := none, host := host.text.toList, port := some (portText port),
    path := "/candlepin".toList, query := none, fragment := none }

/-- A host without a backslash is found in its URL, with the port beside it. -/
theorem read?_ofHost {host : Host} (h : '\\' ∉ host.text.toList) (port : UInt16) :
    Destination.read? (ofHost host port).text.toList = some (destination host port) := by
  have parts : ∀ c ∈ host.text.toList ++ ':' :: portText port,
      c ∈ host.text.toList ∨ c = ':' ∨ c ∈ portText port := by simp
  have at_ : ∀ c ∈ host.text.toList ++ ':' :: portText port, c ≠ '@' := by
    intro c hc
    rcases parts c hc with hc | rfl | hc
    · exact host.ne_mark c hc '@' (by decide)
    · decide
    · exact ne_of_mem_portText hc (by decide)
  have within : ∀ c ∈ host.text.toList ++ ':' :: portText port, Target.endsAuthority c = false := by
    intro c hc
    rcases parts c hc with hc | rfl | hc
    · exact host.endsAuthority_eq_false hc fun same => h (same ▸ hc)
    · decide
    · exact endsAuthority_of_mem_portText hc
  rw [toList_ofHost, Destination.read?_https at_ within (by decide) plain_path,
    Authority.splitPort_append host.isOpen_eq_false fun c hc => ne_of_mem_portText hc (by decide)]
  rfl

/-- A host with a backslash is cut off there: what stands behind it, the port with it, becomes a part of the path. -/
theorem read?_ofHost_of_backslash {host : Host} {before after : List Char}
    (eq : host.text.toList = before ++ '\\' :: after) (first : '\\' ∉ before) (port : UInt16) :
    Destination.read? (ofHost host port).text.toList = some
      { scheme := "https".toList, userinfo := none, host := before, port := none,
        path := '\\' :: (after ++ ':' :: portText port ++ '/' :: "candlepin".toList), query := none,
        fragment := none } := by
  have mem : ∀ c ∈ before, c ∈ host.text.toList := fun c hc => eq ▸ List.mem_append_left _ hc
  have backslash : '\\' ∈ host.text.toList := eq ▸ List.mem_append_right _ List.mem_cons_self
  have within : ∀ c ∈ before, Target.endsAuthority c = false := fun c hc =>
    host.endsAuthority_eq_false (mem c hc) fun same => first (same ▸ hc)
  have plain : ∀ d ∈ '\\' :: (after ++ ':' :: portText port ++ '/' :: "candlepin".toList), d ≠ '?' ∧ d ≠ '#' := by
    intro d hd
    have parts : d ∈ host.text.toList ∨ d = ':' ∨ d ∈ portText port ∨ d ∈ '/' :: "candlepin".toList := by
      rw [eq]
      simp only [List.mem_cons, List.mem_append] at hd ⊢
      tauto
    rcases parts with hd | rfl | hd | hd
    · exact ⟨host.ne_mark d hd '?' (by decide), host.ne_mark d hd '#' (by decide)⟩
    · decide
    · exact ⟨ne_of_mem_portText hd (by decide), ne_of_mem_portText hd (by decide)⟩
    · exact plain_path d hd
  have text : (ofHost host port).text.toList = "https".toList ++ mark.toList ++
      (before ++ '\\' :: (after ++ ':' :: portText port ++ '/' :: "candlepin".toList)) := by
    rw [toList_ofHost, eq]
    simp
  rw [text, Destination.read?_https (fun c hc => host.ne_mark c (mem c hc) '@' (by decide)) within (by decide) plain,
    Authority.splitPort_of_no_colon false fun c hc => Host.ne_colon_of_backslash backslash c (mem c hc)]

/-- The text of an accepted host is accepted again, for the same host. In the URL of a host and a port a client
of the web finds that host, that port, the path of the service and nothing else if and only if the host holds no
backslash; with one it finds the text before the first backslash alone, and no port. -/
theorem ofHost_leads_to_host {raw : String} {host : Host} (h : Host.of raw = .ok host) (port : UInt16) :
    Host.of host.text = .ok host ∧ host.text.toList = trim raw.toList ∧
      (Destination.read? (ofHost host port).text.toList = some (destination host port) ↔ '\\' ∉ host.text.toList) ∧
      Nat.ofDigitChars 10 (portText port) 0 = port.toNat ∧
      ∀ before after, host.text.toList = before ++ '\\' :: after → '\\' ∉ before →
        Destination.read? (ofHost host port).text.toList = some
          { scheme := "https".toList, userinfo := none, host := before, port := none,
            path := '\\' :: (after ++ ':' :: portText port ++ '/' :: "candlepin".toList), query := none,
            fragment := none } := by
  have text : host.text.toList = trim raw.toList := by rw [Host.of_ok h, String.toList_ofList]
  refine ⟨host.of_text, text, ⟨fun found backslash => ?_, fun none => read?_ofHost none port⟩,
    Nat.ofDigitChars_ten_toDigits, fun before after eq first => read?_ofHost_of_backslash eq first port⟩
  obtain ⟨before, after, eq, first⟩ := List.eq_append_cons_of_mem backslash
  rw [read?_ofHost_of_backslash eq first port] at found
  cases congrArg Destination.port (Option.some.inj found)

/-- A bracketed address keeps its colons, and the port comes behind them. -/
theorem ofHost_leads_to_address :
    ∃ host, Host.of " [fe80::1] " = .ok host ∧ Host.of "[fe80::1]" = .ok host ∧
      Destination.read? "https://[fe80::1]:8443/candlepin".toList = some
        { scheme := "https".toList, userinfo := none, host := "[fe80::1]".toList, port := some "8443".toList,
          path := "/candlepin".toList, query := none, fragment := none } := by
  have accepted : Host.of " [fe80::1] " = .ok ⟨"[fe80::1]", by decide⟩ := rfl
  obtain ⟨again, -, found, -⟩ := ofHost_leads_to_host accepted 8443
  exact ⟨_, accepted, again, found.2 (by decide)⟩

/-- A host with a backslash is accepted, and its URL leads to another one. -/
theorem ofHost_leads_elsewhere :
    ∃ host, Host.of "cp\\.example" = .ok host ∧ host.text = "cp\\.example" ∧
      (ofHost host 8443).text = "https://cp\\.example:8443/candlepin" ∧
      Destination.read? (ofHost host 8443).text.toList = some
        { scheme := "https".toList, userinfo := none, host := "cp".toList, port := none,
          path := "\\.example:8443/candlepin".toList, query := none, fragment := none } ∧
      Destination.read? (ofHost host 8443).text.toList ≠ some (destination host 8443) :=
  ⟨⟨"cp\\.example", by decide⟩, rfl, rfl, rfl, by decide, by decide⟩

end BaseUrl

end EntitlementClient
