/-
Replies as a caller sees them: whether they tell of success, the values under the name of a header,
and the text of the body.
-/
import EntitlementClient.Http.Response
import EntitlementClient.Proofs.Json.NameMap
import EntitlementClient.Proofs.Text.Utf8

namespace EntitlementClient.Http

open EntitlementClient.Text

/-- Whether a reply tells that the server did what it was asked to. -/
def Reply.Succeeds (reply : Reply) : Prop :=
  200 ≤ reply.status ∧ reply.status ≤ 299

instance (reply : Reply) : Decidable reply.Succeeds :=
  inferInstanceAs (Decidable (200 ≤ reply.status ∧ reply.status ≤ 299))

/-! ## Headers -/

/-- The values that arrived under a name, in whatever case its letters were. -/
def arrived (name : String) (headers : List (String × List UInt8)) : List (List UInt8) :=
  (headers.filter fun h => lowerName h.1 == name).map (·.2)

theorem arrived_cons_of_ne {name : String} {h : String × List UInt8} (ne : lowerName h.1 ≠ name)
    (headers : List (String × List UInt8)) : arrived name (h :: headers) = arrived name headers := by
  simp [arrived, ne]

theorem arrived_cons_self (h : String × List UInt8) (headers : List (String × List UInt8)) :
    arrived (lowerName h.1) (h :: headers) = h.2 :: arrived (lowerName h.1) headers := by
  simp [arrived]

/-- The values under a name after more headers have been put into a map. -/
theorem foldl_get? (name : String) : ∀ (headers : List (String × List UInt8)) (groups : NameMap (List String)),
    ((headers.foldl (fun groups h =>
      groups.insert (lowerName h.1) ((groups.get? (lowerName h.1)).getD [] ++ [headerText h.2])) groups).get? name) =
      if arrived name headers = [] then groups.get? name
      else some ((groups.get? name).getD [] ++ (arrived name headers).map headerText)
  | [], groups => by simp [arrived]
  | h :: headers, groups => by
    rw [List.foldl_cons, foldl_get? name headers]
    by_cases hn : lowerName h.1 = name
    · subst hn
      rw [NameMap.get?_insert_self, arrived_cons_self]
      by_cases he : arrived (lowerName h.1) headers = [] <;> simp [he]
    · rw [NameMap.get?_insert_of_ne (Ne.symm hn), arrived_cons_of_ne hn]

/-- A name that occurs has the values of its headers, and another has none. -/
theorem groupHeaders_get? (name : String) (headers : List (String × List UInt8)) : (groupHeaders headers).get? name =
    if arrived name headers = [] then none else some ((arrived name headers).map headerText) := by
  rw [show groupHeaders headers = headers.foldl _ .empty from rfl, foldl_get?]
  simp

/-- The server's name for the request, in the first header that is called so. -/
def Reply.reference? (reply : Reply) : Option String :=
  (reply.headers.find? fun h => lowerName h.1 == Response.requestIdHeader).map fun h => headerText h.2

theorem Response.requestId?_eq (reply : Reply) : (Response.ofReply reply).requestId? =
    (arrived Response.requestIdHeader reply.headers).head?.map headerText := by
  show ((groupHeaders reply.headers).get? Response.requestIdHeader).bind List.head? = _
  rw [groupHeaders_get?]
  rcases arrived Response.requestIdHeader reply.headers with _ | ⟨value, values⟩ <;> rfl

theorem Response.requestId?_ofReply (reply : Reply) : (Response.ofReply reply).requestId? = reply.reference? := by
  rw [Response.requestId?_eq, arrived, List.head?_map, List.head?_filter, Option.map_map]
  rfl

/-! ## Bodies -/

theorem Response.body_ofReply (reply : Reply) : (Response.ofReply reply).body = reply.body :=
  rfl

/-- The bytes of a text are read back as they are if it does not start with a byte order mark. -/
theorem decodeBody_encode {s : List Char} (h : s.head? ≠ some '\uFEFF') : Utf8.decodeBody (Utf8.encode s) = s := by
  unfold Utf8.decodeBody
  split
  · next rest hs =>
    have hmark : Utf8.encode s = Utf8.encodeChar '\uFEFF' ++ rest := hs
    have hd : s = '\uFEFF' :: Utf8.decodeLossy rest := by
      rw [← Utf8.decodeLossy_encodeChar_append, ← hmark, Utf8.decodeLossy_encode]
    rw [hd] at h
    exact absurd rfl h
  · exact Utf8.decodeLossy_encode s

/-- A body that arrives in UTF-8 has the text that was sent. -/
theorem Reply.body_ofUtf8 {status : Nat} {headers : List (String × List UInt8)} {text : String}
    {digits : 100 ≤ status ∧ status ≤ 999} (hb : hasBody status = true) (hm : text.toList.head? ≠ some '\uFEFF') :
    (Reply.ofUtf8 status headers (Utf8.encode text.toList) digits).body = text := by
  show (if hasBody status then String.ofList (Utf8.decodeBody (Utf8.encode text.toList)) else "") = text
  rw [if_pos hb, decodeBody_encode hm, String.ofList_toList]

end EntitlementClient.Http
