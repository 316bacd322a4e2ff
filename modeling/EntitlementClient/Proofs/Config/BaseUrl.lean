/-
Base URLs that have been accepted: the first mark stands after the scheme of a web server, something
follows it that holds no query and no fragment, and the text ends with no slash.
-/
import EntitlementClient.Config.BaseUrl
import EntitlementClient.Proofs.Text.Blank
import EntitlementClient.Proofs.Text.Cut

namespace EntitlementClient

open EntitlementClient.Text

namespace BaseUrl

/-- What every accepted base URL satisfies. -/
structure Accepted (url : BaseUrl) : Prop where
  scheme : url.scheme.toList.map Char.toLower = "http".toList ∨ url.scheme.toList.map Char.toLower = "https".toList
  cut : cutAt? mark.toList url.text.toList = some (url.scheme.toList, url.rest.toList)
  host : ∃ c s, url.rest.toList = c :: s ∧ c ≠ ':' ∧ c ≠ '/'
  plain : ∀ c ∈ url.rest.toList, c ≠ '?' ∧ c ≠ '#'
  last : url.rest.toList.getLast? ≠ some '/'

theorem toList_text (url : BaseUrl) : url.text.toList = url.scheme.toList ++ mark.toList ++ url.rest.toList := by
  simp [text]

theorem ofHost_text (host : Host) (port : UInt16) :
    (ofHost host port).text = "https://" ++ host.text ++ ":" ++ toString port.toNat ++ "/candlepin" := by
  have start : "https" ++ mark = "https://" := rfl
  simp only [text, ofHost, start, String.append_assoc]

theorem isRest_host {s : List Char} (h : isRest s = true) : ∃ c t, s = c :: t ∧ c ≠ ':' ∧ c ≠ '/' := by
  rcases s with _ | ⟨c, t⟩
  · exact absurd h (by decide)
  · refine ⟨c, t, rfl, ?_⟩
    rw [isRest, Bool.and_eq_true, List.takeWhile_cons] at h
    by_cases hc : (c != ':' && c != '/') = true
    · simpa using hc
    · rw [if_neg hc] at h
      exact absurd h.1 (by decide)

theorem isRest_plain {s : List Char} (h : isRest s = true) : ∀ c ∈ s, c ≠ '?' ∧ c ≠ '#' := by
  rw [isRest, Bool.and_eq_true, List.all_eq_true] at h
  intro c hc
  simpa using h.2 c hc

/-- The text of an accepted base URL is the normalized text that was given. -/
theorem of_ok {raw : String} {url : BaseUrl} (h : of raw = .ok url) :
    url.text.toList = normalized raw.toList ∧ url.Accepted := by
  rcases hc : cutAt? mark.toList (normalized raw.toList) with _ | ⟨scheme, rest⟩
  · rw [of, hc] at h; cases h
  rw [of, hc] at h
  simp only at h
  split at h
  · rename_i hv
    rw [Bool.and_eq_true] at hv
    obtain ⟨hs, hr⟩ := hv
    cases h
    have ht : (BaseUrl.mk (String.ofList scheme) (String.ofList rest)).text.toList = normalized raw.toList := by
      rw [toList_text, String.toList_ofList, String.toList_ofList]
      exact (cutAt?_eq_some hc).symm
    refine ⟨ht, ⟨?_, ?_, ?_, ?_, ?_⟩⟩
    · simpa [isScheme] using hs
    · rw [ht, hc, String.toList_ofList, String.toList_ofList]
    · rw [String.toList_ofList]; exact isRest_host hr
    · rw [String.toList_ofList]; exact isRest_plain hr
    · rw [String.toList_ofList]
      intro hl
      -- something follows the mark, so the last character of the text is that of what follows it
      have hn : (normalized raw.toList).getLast? = some '/' := by
        rw [cutAt?_eq_some hc, List.getLast?_append, hl]
        rfl
      exact absurd (getLast?_dropEndWhile hn) (by decide)
  · cases h

end BaseUrl

end EntitlementClient
