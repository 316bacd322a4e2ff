/-
The headers of a response by their names. No value is lost and none comes to stand under another name, the values
of one name keep the order of their arrival, and neither the mixing of different names nor the case of their
letters makes a difference.
-/
import EntitlementClient.Proofs.Http.Reply
import Mathlib.Logic.Relation

namespace EntitlementClient.Http

open EntitlementClient.Text

/-! ## Values -/

/-- Whether a text is what is shown of a value: its own bytes if each of them is printing ASCII, a blank or a tab,
and nothing if one of them is not. -/
inductive Shows (value : List UInt8) : String → Prop
  | verbatim {text : String} (visible : ∀ b ∈ value, (0x20 ≤ b ∧ b < 0x7F) ∨ b = 0x09)
      (same : Utf8.encode text.toList = value) : Shows value text
  | hidden {b : UInt8} (mem : b ∈ value) (invisible : ¬((0x20 ≤ b ∧ b < 0x7F) ∨ b = 0x09)) : Shows value ""

theorem isVisible_iff {b : UInt8} : isVisible b = true ↔ (0x20 ≤ b ∧ b < 0x7F) ∨ b = 0x09 := by
  simp [isVisible]

theorem encodeChar_ofNat : ∀ n < 0x80, Utf8.encodeChar (Char.ofNat n) = [UInt8.ofNat n] := by decide +kernel

theorem shows_headerText (value : List UInt8) : Shows value (headerText value) := by
  unfold headerText
  split
  · next all =>
    have visible : ∀ b ∈ value, (0x20 ≤ b ∧ b < 0x7F) ∨ b = 0x09 :=
      fun b mem => isVisible_iff.1 (List.all_eq_true.1 all b mem)
    refine .verbatim visible ?_
    rw [String.toList_ofList]
    clear all
    induction value with
    | nil => rfl
    | cons b value ih =>
      obtain ⟨first, rest⟩ := List.forall_mem_cons.1 visible
      have ascii : b < 0x80 := by
        rcases first with ⟨-, lt⟩ | rfl
        · exact UInt8.lt_trans lt (by decide)
        · decide
      rw [List.map_cons, Utf8.encode_cons, encodeChar_ofNat b.toNat ascii, ih rest, UInt8.ofNat_toNat,
        List.singleton_append]
  · next some =>
    rw [List.all_eq_true, not_forall] at some
    obtain ⟨b, some⟩ := some
    obtain ⟨mem, invisible⟩ := Classical.not_imp.1 some
    exact .hidden mem (mt isVisible_iff.2 invisible)

/-! ## Headers in the order of their arrival -/

variable {headers headers' : List (String × List UInt8)}

theorem arrived_append (name : String) (a b : List (String × List UInt8)) :
    arrived name (a ++ b) = arrived name a ++ arrived name b := by
  rw [arrived, List.filter_append, List.map_append]
  rfl

theorem arrived_eq_nil_iff {name : String} : arrived name headers = [] ↔ ∀ h ∈ headers, lowerName h.1 ≠ name := by
  simp [arrived]

/-- Two sequences of headers that differ in one place: two neighbours with different names have changed places, or
a name is written in another case. -/
inductive Moved : List (String × List UInt8) → List (String × List UInt8) → Prop
  | swap (before after : List (String × List UInt8)) {a b : String × List UInt8} (ne : lowerName a.1 ≠ lowerName b.1) :
    Moved (before ++ a :: b :: after) (before ++ b :: a :: after)
  | respell (before after : List (String × List UInt8)) {name name' : String} (same : lowerName name = lowerName name')
      (value : List UInt8) :
    Moved (before ++ (name, value) :: after) (before ++ (name', value) :: after)

/-- Two sequences of headers that differ in the mixing of different names and in the case of letters alone. -/
def Rearranged : List (String × List UInt8) → List (String × List UInt8) → Prop :=
  Relation.ReflTransGen Moved

theorem Moved.arrived_eq (h : Moved headers headers') (name : String) :
    arrived name headers = arrived name headers' := by
  cases h with
  | @swap before after a b ne =>
    rw [arrived_append, arrived_append]
    refine congrArg _ ?_
    -- one of the two at most has the name
    by_cases ha : lowerName a.1 = name
    · have hb : lowerName b.1 ≠ name := fun hb => ne (ha.trans hb.symm)
      subst ha
      rw [arrived_cons_of_ne hb, arrived_cons_self, arrived_cons_self, arrived_cons_of_ne hb]
    · rw [arrived_cons_of_ne ha]
      by_cases hb : lowerName b.1 = name
      · subst hb
        rw [arrived_cons_self, arrived_cons_self, arrived_cons_of_ne ha]
      · rw [arrived_cons_of_ne hb, arrived_cons_of_ne hb, arrived_cons_of_ne ha]
  | @respell before after n n' same value =>
    rw [arrived_append, arrived_append]
    simp only [arrived, List.filter_cons, same]
    split <;> rfl

theorem Rearranged.arrived_eq (h : Rearranged headers headers') (name : String) :
    arrived name headers = arrived name headers' := by
  induction h with
  | refl => rfl
  | tail _ step ih => exact ih.trans (step.arrived_eq name)

theorem Moved.cons (h : String × List UInt8) (moved : Moved headers headers') :
    Moved (h :: headers) (h :: headers') := by
  cases moved with
  | swap before after ne => exact .swap (h :: before) after ne
  | respell before after same value => exact .respell (h :: before) after same value

theorem Rearranged.cons (h : String × List UInt8) (moved : Rearranged headers headers') :
    Rearranged (h :: headers) (h :: headers') :=
  Relation.ReflTransGen.lift (h :: ·) (fun _ _ step => Moved.cons h step) _ _ moved

/-- A header may be moved behind others that are not called as it is. -/
theorem rearranged_middle {h : String × List UInt8} {before : List (String × List UInt8)}
    (ne : ∀ other ∈ before, lowerName h.1 ≠ lowerName other.1) (after : List (String × List UInt8)) :
    Rearranged (h :: (before ++ after)) (before ++ h :: after) := by
  induction before with
  | nil => exact .refl
  | cons other before ih =>
    obtain ⟨first, rest⟩ := List.forall_mem_cons.1 ne
    exact .head (.swap [] (before ++ after) first) ((ih rest).cons other)

/-- Headers are rearranged if and only if the values of every name have arrived in the same order. -/
theorem rearranged_iff : Rearranged headers headers' ↔ ∀ name, arrived name headers = arrived name headers' := by
  refine ⟨Rearranged.arrived_eq, fun same => ?_⟩
  induction headers generalizing headers' with
  | nil =>
    cases headers' with
    | nil => exact .refl
    | cons h headers' =>
      have none := same (lowerName h.1)
      rw [arrived_cons_self] at none
      cases none
  | cons h headers ih =>
    obtain ⟨n, value⟩ := h
    -- the first header of the name in the other sequence has the same value, and comes to the front
    have found := same (lowerName n)
    rw [arrived_cons_self (n, value)] at found
    obtain ⟨first, others, filtered, rfl, rest⟩ := List.map_eq_cons_iff.1 found.symm
    obtain ⟨before, after, rfl, absent, named, -⟩ := List.filter_eq_cons_iff.1 filtered
    obtain ⟨n', value⟩ := first
    have spelt : lowerName n' = lowerName n := beq_iff_eq.1 named
    have front : Rearranged ((n, value) :: (before ++ after)) (before ++ (n', value) :: after) := by
      have ne : ∀ other ∈ before, lowerName n ≠ lowerName other.1 :=
        fun other mem eq => absent other mem (beq_iff_eq.2 eq.symm)
      exact (rearranged_middle (h := (n, value)) ne after).tail (.respell before after spelt.symm value)
    refine .trans (Rearranged.cons _ (ih fun name => ?_)) front
    have left := same name
    rw [← front.arrived_eq name] at left
    by_cases hn : lowerName n = name
    · subst hn
      rw [arrived_cons_self (n, value), arrived_cons_self (n, value)] at left
      exact (List.cons.inj left).2
    · rwa [arrived_cons_of_ne (h := (n, value)) hn, arrived_cons_of_ne (h := (n, value)) hn] at left

/-! ## Grouping -/

/-- What it means that values stand under the names of the headers with which they arrived: the names are those of
the headers in small letters, and under each of them stand its values, in the order of their arrival. -/
structure Grouped (headers : List (String × List UInt8)) (groups : NameMap (List String)) : Prop where
  names : ∀ name, (∃ values, groups.get? name = some values) ↔ ∃ h ∈ headers, lowerName h.1 = name
  values : ∀ name values, groups.get? name = some values → List.Forall₂ Shows (arrived name headers) values

theorem grouped_groupHeaders (headers : List (String × List UInt8)) : Grouped headers (groupHeaders headers) where
  names name := by
    simp only [groupHeaders_get?, arrived_eq_nil_iff]
    constructor
    · rintro ⟨values, found⟩
      split at found
      · cases found
      · next some =>
        push Not at some
        exact some
    · rintro ⟨h, mem, named⟩
      rw [if_neg fun none => none h mem named]
      exact ⟨_, rfl⟩
  values name values found := by
    rw [groupHeaders_get?] at found
    split at found
    · cases found
    · cases found
      rw [List.forall₂_map_right_iff, List.forall₂_same]
      exact fun value _ => shows_headerText value

/-- What is known of headers that have been rearranged before they are grouped. -/
theorem Rearranged.groupHeaders_eq (h : Rearranged headers headers') :
    groupHeaders headers = groupHeaders headers' := by
  refine NameMap.ext_get? fun name => ?_
  rw [groupHeaders_get?, groupHeaders_get?, h.arrived_eq]

/-- The first value of the header in which the server names a request. -/
theorem requestId?_shows (reply : Reply) : Option.Rel Shows (arrived Response.requestIdHeader reply.headers).head?
    (Response.ofReply reply).requestId? := by
  rw [Response.requestId?_eq]
  cases (arrived Response.requestIdHeader reply.headers).head? with
  | none => exact .none
  | some value => exact .some (shows_headerText value)

/-- Headers may be gone through in any order in which the values of one name keep the order of their arrival. They
are grouped as they arrived, so that neither the mixing of names nor the case of letters makes a difference, and the
server's name for the request is the first value that arrived for it. -/
theorem Response.headers_grouped {reply : Reply} (inOrder : ∀ name, arrived name reply.headers = arrived name headers) :
    Grouped headers (Response.ofReply reply).headers ∧
      (∀ reply' : Reply, Rearranged headers reply'.headers →
        (Response.ofReply reply').headers = (Response.ofReply reply).headers) ∧
      Option.Rel Shows (arrived Response.requestIdHeader headers).head? (Response.ofReply reply).requestId? := by
  have same : Rearranged headers reply.headers := rearranged_iff.2 fun name => (inOrder name).symm
  have grouped : (Response.ofReply reply).headers = groupHeaders headers := same.groupHeaders_eq.symm
  refine ⟨?_, fun reply' moved => ?_, ?_⟩
  · rw [grouped]
    exact grouped_groupHeaders headers
  · rw [grouped]
    exact moved.groupHeaders_eq.symm
  · rw [← inOrder]
    exact requestId?_shows reply

/-- Two values of the request's name arrive with another header between them, and are gone through before it. The
second of them cannot be shown. -/
theorem Response.headers_grouped_mixed : ∃ reply : Reply,
    (∀ name, arrived name reply.headers = arrived name
      [("X-Candlepin-Request-Uuid", [0x61]), ("Accept", [0x62]), ("x-candlepin-request-uuid", [0xE9])]) ∧
    Grouped [("X-Candlepin-Request-Uuid", [0x61]), ("Accept", [0x62]), ("x-candlepin-request-uuid", [0xE9])]
      (Response.ofReply reply).headers ∧
    (Response.ofReply reply).requestId? = some "a" := by
  have moved : Rearranged
      [("X-Candlepin-Request-Uuid", [0x61]), ("Accept", [0x62]), ("x-candlepin-request-uuid", [0xE9])]
      [("x-candlepin-request-uuid", [0x61]), ("x-candlepin-request-uuid", [0xE9]), ("accept", [0x62])] :=
    .head (.respell [] _ (by decide) _) (.head (.swap [_] [] (by decide)) (.single (.respell [_, _] [] (by decide) _)))
  have inOrder name := (moved.arrived_eq name).symm
  exact ⟨{ status := 200, headers := _, body := "" }, inOrder, (headers_grouped inOrder).1, by decide⟩

end EntitlementClient.Http
