/-
Which texts are taken as base URLs, and which text is kept of them. Of an authority the first character
alone is looked at: it tells whether there is a host as long as there is no userinfo. The text that is kept
is in normal form unless white space stands before slashes at the end of what has been given.
-/
import EntitlementClient.Proofs.Config.BaseUrl
import EntitlementClient.Proofs.Config.Settings

namespace EntitlementClient

open EntitlementClient.Text

/-! ## Authorities -/

namespace Authority

/-- The text before the last `@`, if there is one. -/
def userinfo? (authority : List Char) : Option (List Char) :=
  (splitFirst '@' authority.reverse).2.map List.reverse

/-- The text after the last `@`. -/
def afterUserinfo (authority : List Char) : List Char :=
  (splitFirst '@' authority.reverse).1.reverse

/-- The text up to the first colon outside brackets, where a port begins; `inside` tells that a bracket
is open. -/
def untilPort (inside : Bool) : List Char → List Char
  | [] => []
  | c :: s => if c = ':' ∧ inside = false then [] else c :: untilPort (c == '[' || inside && c != ']') s

/-- The host that an authority names. -/
def host (authority : List Char) : List Char :=
  untilPort false (afterUserinfo authority)

theorem untilPort_eq_nil {s : List Char} : untilPort false s = [] ↔ s = [] ∨ s.head? = some ':' := by
  cases s with
  | nil => simp [untilPort]
  | cons c s => by_cases h : c = ':' <;> simp [untilPort, h]

/-- An authority is its userinfo and an `@`, if it has one, and what comes after. -/
theorem eq_append (authority : List Char) :
    authority = (userinfo? authority).elim [] (· ++ ['@']) ++ afterUserinfo authority := by
  have cut := congrArg List.reverse (eq_splitFirst_append '@' authority.reverse)
  rw [List.reverse_reverse, List.reverse_append] at cut
  refine cut.trans ?_
  rw [userinfo?, afterUserinfo]
  cases (splitFirst '@' authority.reverse).2 <;> simp

/-- Without userinfo the host is all that stands before the port. -/
theorem host_eq_nil_of_none {authority : List Char} (h : userinfo? authority = none) :
    host authority = [] ↔ authority = [] ∨ authority.head? = some ':' := by
  have eq := eq_append authority
  rw [h] at eq
  rw [host, untilPort_eq_nil, ← show authority = afterUserinfo authority from eq]

/-- With userinfo an authority begins as that does. -/
theorem head?_of_some {authority userinfo : List Char} (h : userinfo? authority = some userinfo) :
    authority ≠ [] ∧ (authority.head? = some ':' ↔ userinfo.head? = some ':') := by
  have eq := eq_append authority
  rw [h] at eq
  rw [eq]
  cases userinfo <;> simp

/-- Colons of an address between brackets begin no port. -/
example : userinfo? "u:p@[::1]:80".toList = some "u:p".toList ∧ host "u:p@[::1]:80".toList = "[::1]".toList := by
  decide

end Authority

namespace BaseUrl

/-! ## Acceptance -/

/-- Whether a text is a scheme of a web server, the mark, and a rest without query and fragment. -/
structure IsWeb (text : List Char) (url : BaseUrl) : Prop where
  eq : text = url.scheme.toList ++ mark.toList ++ url.rest.toList
  scheme : url.scheme.toList.map Char.toLower = "http".toList ∨ url.scheme.toList.map Char.toLower = "https".toList
  plain : ∀ c ∈ url.rest.toList, c ≠ '?' ∧ c ≠ '#'

theorem plain_of_all {s : List Char} (h : s.all (fun c => c != '?' && c != '#') = true) :
    ∀ c ∈ s, c ≠ '?' ∧ c ≠ '#' := by
  simpa using h

/-- The authority of a URL. -/
def authority (url : BaseUrl) : List Char :=
  url.rest.toList.takeWhile (· != '/')

theorem isScheme_iff {s : List Char} :
    isScheme s = true ↔ s.map Char.toLower = "http".toList ∨ s.map Char.toLower = "https".toList := by
  simp [isScheme]

/-- A rest is taken if it has no query and no fragment, and its authority is not empty and begins with no
colon. -/
theorem isRest_iff {s : List Char} : isRest s = true ↔
    (∀ c ∈ s, c ≠ '?' ∧ c ≠ '#') ∧ s.takeWhile (· != '/') ≠ [] ∧ (s.takeWhile (· != '/')).head? ≠ some ':' := by
  cases s with
  | nil => simp [isRest]
  | cons c s => by_cases hs : c = '/' <;> by_cases hc : c = ':' <;> simp [isRest, hs, hc, and_comm]

/-- The first mark stands right after a scheme of a web server. -/
theorem cutAt?_scheme {scheme : List Char}
    (h : scheme.map Char.toLower = "http".toList ∨ scheme.map Char.toLower = "https".toList) (rest : List Char) :
    cutAt? mark.toList (scheme ++ mark.toList ++ rest) = some (scheme, rest) := by
  have plain : ∀ c ∈ scheme, c ≠ ':' := by
    rintro c hc rfl
    have hm : Char.toLower ':' ∈ scheme.map Char.toLower := List.mem_map_of_mem hc
    rcases h with h | h <;> rw [h] at hm <;> exact absurd hm (by decide)
  clear h
  induction scheme with
  | nil => rfl
  | cons c scheme ih =>
    have hc : ¬mark.toList.isPrefixOf (c :: (scheme ++ mark.toList ++ rest)) = true := by
      simp [mark, (plain c List.mem_cons_self).symm]
    rw [List.cons_append, List.cons_append, cutAt?, if_neg hc, ih fun c hc => plain c (List.mem_cons_of_mem _ hc)]
    rfl

theorem of_eq_ok_iff {raw : String} {url : BaseUrl} : of raw = .ok url ↔
    IsWeb (normalized raw.toList) url ∧ url.authority ≠ [] ∧ url.authority.head? ≠ some ':' := by
  constructor
  · intro h
    obtain ⟨text, accepted⟩ := of_ok h
    refine ⟨⟨by rw [← text, toList_text], accepted.scheme, accepted.plain⟩, ?_⟩
    obtain ⟨c, s, eq, notColon, notSlash⟩ := accepted.host
    rw [authority, eq]
    simp [notColon, notSlash]
  · rintro ⟨web, nonempty, notColon⟩
    have rest : isRest url.rest.toList = true := isRest_iff.2 ⟨web.plain, nonempty, notColon⟩
    rw [of, web.eq, cutAt?_scheme web.scheme]
    simp only [isScheme_iff.2 web.scheme, rest, Bool.and_self, if_true, String.ofList_toList]

/-- A text is a base URL if it is that of a web server, without query and fragment, and its authority
names a host, or, where there is userinfo, if that does not begin with a colon; what is refused is
reported as it has been given. So the host decides if and only if there is no userinfo, or the userinfo
begins with a colon just where the host is missing. -/
theorem acceptance (raw : String) :
    (∀ url, of raw = .ok url ↔ IsWeb (normalized raw.toList) url ∧
      match Authority.userinfo? url.authority with
      | none => Authority.host url.authority ≠ []
      | some userinfo => userinfo.head? ≠ some ':') ∧
    ((∀ url, of raw ≠ .ok url) → of raw = .error (.invalidBaseUrl raw)) ∧
    ∀ url, IsWeb (normalized raw.toList) url →
      ((of raw = .ok url ↔ Authority.host url.authority ≠ []) ↔
        ∀ userinfo, Authority.userinfo? url.authority = some userinfo →
          (userinfo.head? = some ':' ↔ Authority.host url.authority = [])) := by
  have decided (url : BaseUrl) : of raw = .ok url ↔ IsWeb (normalized raw.toList) url ∧
      match Authority.userinfo? url.authority with
      | none => Authority.host url.authority ≠ []
      | some userinfo => userinfo.head? ≠ some ':' := by
    rw [of_eq_ok_iff]
    refine and_congr_right fun _ => ?_
    cases h : Authority.userinfo? url.authority with
    | none => simp only [ne_eq, Authority.host_eq_nil_of_none h, not_or]
    | some userinfo =>
      obtain ⟨nonempty, first⟩ := Authority.head?_of_some h
      simp only [ne_eq, nonempty, not_false_eq_true, true_and, first]
  refine ⟨decided, fun refused => ?_, fun url web => ?_⟩
  · cases h : of raw with
    | ok url => exact absurd h (refused url)
    | error e => rw [of_error h]
  · rw [decided url]
    cases Authority.userinfo? url.authority with
    | none => simp [web]
    | some userinfo =>
      simp only [web, true_and, Option.some.injEq, forall_eq']
      tauto

/-- An address between brackets is a host, and without one nothing is taken. -/
theorem acceptance_address :
    of " HTTPS://[::1]:8443/candlepin// " = .ok ⟨"HTTPS", "[::1]:8443/candlepin"⟩ ∧
      of "http://:8443/candlepin" = .error (.invalidBaseUrl "http://:8443/candlepin") := by
  have web : IsWeb (normalized " HTTPS://[::1]:8443/candlepin// ".toList) ⟨"HTTPS", "[::1]:8443/candlepin"⟩ :=
    ⟨by decide, by decide, plain_of_all (by decide)⟩
  have refused : ∀ url, of "http://:8443/candlepin" ≠ .ok url := by
    intro url h
    have error : of "http://:8443/candlepin" = .error (.invalidBaseUrl "http://:8443/candlepin") := rfl
    cases error.symm.trans h
  refine ⟨(((acceptance _).2.2 _ web).2 fun userinfo h => ?_).2 (by decide), (acceptance _).2.1 refused⟩
  exact absurd h (by decide +revert)

/-- Userinfo hides that there is no host, and a colon that it begins with hides that there is one. -/
theorem acceptance_userinfo :
    (of "http://admin@" = .ok ⟨"http", "admin@"⟩ ∧ Authority.host (authority ⟨"http", "admin@"⟩) = []) ∧
      of "http://:secret@cp.example" = .error (.invalidBaseUrl "http://:secret@cp.example") ∧
      IsWeb (normalized "http://:secret@cp.example".toList) ⟨"http", ":secret@cp.example"⟩ ∧
      Authority.host (authority ⟨"http", ":secret@cp.example"⟩) = "cp.example".toList :=
  ⟨⟨rfl, by decide⟩, rfl, ⟨by decide, by decide, plain_of_all (by decide)⟩, by decide⟩

/-! ## Normal form -/

/-- Whether a character has no place at the end of a base URL. -/
def isTail (c : Char) : Bool :=
  c == '/' || isBlank c

/-- What is left of a text once the white space and then the slashes at its end are gone ends with no white
space if and only if nothing is left at its end that has no place there. -/
theorem normalized_eq_iff (raw : List Char) :
    normalized raw = dropEndWhile isTail (trimStart raw) ↔
      ∀ c, (normalized raw).getLast? = some c → isBlank c = false := by
  constructor
  · intro eq c hc
    rw [eq] at hc
    have kept := getLast?_dropEndWhile hc
    rw [isTail, Bool.or_eq_false_iff] at kept
    exact kept.2
  · intro h
    obtain ⟨blanks, eq, allBlank⟩ := exists_dropEndWhile isBlank (trimStart raw)
    obtain ⟨slashes, eq', allSlash⟩ := exists_dropEndWhile (· == '/') (trim raw)
    have parts : trimStart raw = normalized raw ++ (slashes ++ blanks) := by
      rw [← List.append_assoc, normalized, ← eq']
      exact eq
    rw [parts, dropEndWhile_append]
    · intro c hc
      have notSlash : (c == '/') = false := getLast?_dropEndWhile (p := (· == '/')) hc
      rw [isTail, h c hc, notSlash, Bool.or_false]
    · intro c hc
      rw [isTail]
      rcases List.mem_append.1 hc with hc | hc
      · simp [allSlash c hc]
      · simp [allBlank c hc]

/-- A text that is normalized to itself ends with no white space. -/
theorem getLast?_of_normalized_eq_self {s : List Char} (h : normalized s = s) {c : Char} (last : s.getLast? = some c) :
    isBlank c = false := by
  obtain ⟨slashes, eq, -⟩ := exists_dropEndWhile (· == '/') (trim s)
  obtain ⟨blanks, eq', -⟩ := exists_dropEndWhile isBlank (trimStart s)
  have shorter : (trimStart s).length ≤ s.length := (List.dropWhile_sublist _).length_le
  have trimmed : trim s = s ++ slashes := by
    rw [← show normalized s = dropEndWhile (· == '/') (trim s) from rfl, h] at eq
    exact eq
  have length : (trimStart s).length = (s ++ slashes).length + blanks.length := by
    rw [eq', ← trimmed, List.length_append]
    rfl
  have none : slashes = [] := by
    rw [← List.length_eq_zero_iff]
    rw [List.length_append] at length
    omega
  rw [none, List.append_nil] at trimmed
  rw [← trimmed] at last
  exact getLast?_dropEndWhile last

/-- The text of an accepted base URL begins with no white space. -/
theorem IsWeb.trimStart_eq {text : List Char} {url : BaseUrl} (h : IsWeb text url) : trimStart text = text := by
  obtain ⟨eq, scheme, -⟩ := h
  cases start : url.scheme.toList with
  | nil => rw [start] at scheme; rcases scheme with scheme | scheme <;> cases scheme
  | cons c s =>
    have letter : c.toLower = 'h' := by
      rw [start] at scheme
      rcases scheme with scheme | scheme <;> exact (List.cons.inj scheme).1
    have notBlank : isBlank c = false := by
      cases blank : isBlank c with
      | false => rfl
      | true =>
        have code : c.toNat ∈ blanks := List.contains_iff_mem.1 blank
        have other : ∀ n ∈ blanks, (Char.ofNat n).toLower ≠ 'h' := by decide
        have hc := other c.toNat code
        rw [Char.ofNat_toNat] at hc
        exact absurd letter hc
    rw [eq, start]
    exact List.dropWhile_cons_of_neg (by simp [notBlank])

theorem IsWeb.normalized_eq_self {text : List Char} {url : BaseUrl} (h : IsWeb text url)
    (notSlash : text.getLast? ≠ some '/') (notBlank : ∀ c, text.getLast? = some c → isBlank c = false) :
    normalized text = text := by
  have trimmed : trim text = text := by
    rw [trim, h.trimStart_eq]
    exact dropEndWhile_eq_self notBlank
  rw [normalized, trimmed]
  refine dropEndWhile_eq_self fun c hc => ?_
  rw [beq_eq_false_iff_ne]
  rintro rfl
  exact notSlash hc

/-- The text of an accepted base URL never ends with a slash. It ends with no white space, and is itself
taken for the same base URL, if and only if it is what has been given without any of the slashes and white
space at its end. -/
theorem normal_form {raw : String} {url : BaseUrl} (h : of raw = .ok url) :
    url.text.toList.getLast? ≠ some '/' ∧
      ((∀ c, url.text.toList.getLast? = some c → isBlank c = false) ↔
        url.text.toList = dropEndWhile isTail (trimStart raw.toList)) ∧
      (of url.text = .ok url ↔ url.text.toList = dropEndWhile isTail (trimStart raw.toList)) := by
  obtain ⟨text, -⟩ := of_ok h
  obtain ⟨web, authority⟩ := of_eq_ok_iff.1 h
  have notSlash : url.text.toList.getLast? ≠ some '/' := by
    rw [text]
    intro last
    exact absurd (getLast?_dropEndWhile last) (by decide)
  have complete := normalized_eq_iff raw.toList
  rw [← text] at web complete
  refine ⟨notSlash, complete.symm, ?_⟩
  rw [complete]
  constructor
  · intro again c last
    exact getLast?_of_normalized_eq_self (of_ok again).1.symm last
  · intro notBlank
    rw [of_eq_ok_iff, web.normalized_eq_self notSlash notBlank]
    exact ⟨web, authority⟩

/-- Slashes before white space are dropped together with it. -/
theorem normal_form_candlepin :
    of "http://cp.example/candlepin// " = .ok ⟨"http", "cp.example/candlepin"⟩ ∧
      of "http://cp.example/candlepin" = .ok ⟨"http", "cp.example/candlepin"⟩ := by
  have first : of "http://cp.example/candlepin// " = .ok ⟨"http", "cp.example/candlepin"⟩ := rfl
  exact ⟨first, (normal_form first).2.2.2 (by decide)⟩

/-- White space before slashes stays, and then another text is kept the second time, or none. -/
theorem normal_form_blank :
    (of "http://h/ /" = .ok ⟨"http", "h/ "⟩ ∧ of (text ⟨"http", "h/ "⟩) = .ok ⟨"http", "h"⟩) ∧
      of "http:// /" = .ok ⟨"http", " "⟩ ∧ of (text ⟨"http", " "⟩) = .error (.invalidBaseUrl "http:// ") :=
  ⟨⟨rfl, rfl⟩, rfl, rfl⟩

end BaseUrl

end EntitlementClient
