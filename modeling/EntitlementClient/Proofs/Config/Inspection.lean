/-
What the text for people to read of a draft tells. All of its fields can be read off it, the password
and the text of the private key among them, so that choices which differ in these alone are told apart
wherever the draft still has what differs.
-/
import EntitlementClient.Proofs.Config.Secrets
import EntitlementClient.Proofs.Json.Numeral
import EntitlementClient.Proofs.Text.Quoted
import Mathlib.Data.List.Forall2

namespace EntitlementClient

open EntitlementClient.Text

/-! ## Values -/

/-- A value that may be absent is told from what follows it if the value is when a bracket follows it. -/
theorem inspectOption_delimited {α : Type} {write : α → String}
    (h : ∀ a b s t, (write a).toList ++ ')' :: s = (write b).toList ++ ')' :: t → a = b ∧ s = t) :
    Delimited (inspectOption write) := by
  intro a b s t eq
  cases a with
  | none =>
    cases b with
    | none => exact ⟨rfl, List.append_cancel_left eq⟩
    | some y => simp [inspectOption] at eq
  | some x =>
    cases b with
    | none => simp [inspectOption] at eq
    | some y =>
      simp only [inspectOption, String.toList_append, List.append_assoc, List.append_cancel_left_eq] at eq
      obtain ⟨rfl, rfl⟩ := h x y s t eq
      exact ⟨rfl, rfl⟩

/-- A text that may be absent is told from what follows it. -/
theorem inspectText_delimited : Delimited (inspectOption Quoted.quote) :=
  inspectOption_delimited fun a b s t eq => by
    obtain ⟨texts, rest⟩ := Quoted.delimited a b (')' :: s) (')' :: t) eq
    exact ⟨texts, List.tail_eq_of_cons_eq rest⟩

theorem digits_of_append_bracket (n : Nat) (s : List Char) :
    ((toString n).toList ++ ')' :: s).takeWhile Char.isDigit = Nat.toDigits 10 n := by
  have text : (toString n).toList = Nat.toDigits 10 n := Nat.toList_repr
  rw [text]
  exact Json.takeWhile_isDigit_append (fun c hc => Nat.isDigit_of_mem_toDigits (by decide) (by decide) hc)
    (by simp)

/-- So is the number of a port: its digits end at the bracket. -/
theorem inspectPort_delimited : Delimited (inspectOption fun port : UInt16 => toString port.toNat) :=
  inspectOption_delimited fun a b s t eq => by
    have digits := congrArg (List.takeWhile Char.isDigit) eq
    rw [digits_of_append_bracket, digits_of_append_bracket] at digits
    have number := congrArg Json.digitsValue digits
    rw [Json.digitsValue_toDigits, Json.digitsValue_toDigits] at number
    obtain rfl := UInt16.toNat_inj.1 number
    exact ⟨rfl, List.tail_eq_of_cons_eq (List.append_cancel_left eq)⟩

theorem inspectBool_injective {a b : Bool} (h : inspectBool a = inspectBool b) : a = b := by
  revert a b
  decide

/-! ## Fields -/

/-- The fields of a record in the text for people to read. -/
def fieldsText (fields : List (String × String)) : String :=
  commaSeparated (fields.map fun f => f.1 ++ ": " ++ f.2)

theorem inspectFields_inj {model : String} {fields fields' : List (String × String)}
    (h : inspectFields model fields = inspectFields model fields') : fieldsText fields = fieldsText fields' := by
  have chars := congrArg String.toList h
  simp only [inspectFields, String.toList_append, List.append_assoc, List.append_cancel_left_eq,
    List.append_cancel_right_eq] at chars
  exact String.toList_inj.1 chars

theorem fieldsText_cons (f g : String × String) (fields : List (String × String)) :
    (fieldsText (f :: g :: fields)).toList =
      f.1.toList ++ (": ".toList ++ (f.2.toList ++ (", ".toList ++ (fieldsText (g :: fields)).toList))) := by
  simp only [fieldsText, commaSeparated, List.map_cons, String.toList_intercalate, List.intercalate_cons_cons,
    String.toList_append, List.append_assoc]

/-- The first of several fields is read off, and the others are left. -/
theorem fieldsText_cons_inj {α : Type} {write : α → String} (h : Delimited write) {label : String} {a b : α}
    {f g : String × String} {fields fields' : List (String × String)}
    (eq : fieldsText ((label, write a) :: f :: fields) = fieldsText ((label, write b) :: g :: fields')) :
    a = b ∧ fieldsText (f :: fields) = fieldsText (g :: fields') := by
  have chars := congrArg String.toList eq
  rw [fieldsText_cons, fieldsText_cons, List.append_cancel_left_eq, List.append_cancel_left_eq] at chars
  obtain ⟨rfl, rest⟩ := h a b _ _ chars
  exact ⟨rfl, String.toList_inj.1 (List.append_cancel_left rest)⟩

theorem fieldsText_singleton_inj {label s t : String}
    (eq : fieldsText [(label, s)] = fieldsText [(label, t)]) : s = t := by
  have chars := congrArg String.toList eq
  simp only [fieldsText, commaSeparated, List.map_cons, List.map_nil, String.toList_intercalate,
    List.intercalate_singleton, String.toList_append, List.append_cancel_left_eq] at chars
  exact String.toList_inj.1 chars

/-! ## Drafts -/

namespace Draft

open Config

/-- Drafts that are shown alike are the same. -/
theorem inspect_injective : Function.Injective inspect := by
  intro a b h
  have row := inspectFields_inj h
  obtain ⟨username, row⟩ := fieldsText_cons_inj inspectText_delimited row
  obtain ⟨password, row⟩ := fieldsText_cons_inj inspectText_delimited row
  obtain ⟨certificatePem, row⟩ := fieldsText_cons_inj inspectText_delimited row
  obtain ⟨keyPem, row⟩ := fieldsText_cons_inj inspectText_delimited row
  obtain ⟨host, row⟩ := fieldsText_cons_inj inspectText_delimited row
  obtain ⟨port, row⟩ := fieldsText_cons_inj inspectPort_delimited row
  obtain ⟨baseUrl, row⟩ := fieldsText_cons_inj inspectText_delimited row
  obtain ⟨userAgentPrefix, row⟩ := fieldsText_cons_inj inspectText_delimited row
  have accept := inspectBool_injective (fieldsText_singleton_inj row)
  cases a
  cases b
  simp only [mk.injEq]
  exact ⟨username, password, certificatePem, keyPem, host, port, baseUrl, userAgentPrefix, accept⟩

end Draft

/-! ## Secrets in a series of choices -/

namespace Config

/-- What is secret in a choice: the password, or the text of the private key. -/
def Setting.secret? (choice : Setting) : Option String :=
  choice.pair?.map (·.2)

/-- What is secret in the last choice of a kind. -/
def secretOf (setter : Setter) (settings : List Setting) : Option String :=
  (last? setter settings).bind Setting.secret?

theorem Setting.Alike.eq_of_secret {a b : Setting} (h : a.Alike b) (same : a.secret? = b.secret?) : a = b := by
  cases h with
  | basicAuth username password password' => rw [show password = password' from Option.some.inj same]
  | identityCertificate certificate key key' => rw [show key = key' from Option.some.inj same]
  | same => rfl

section

variable {settings settings' : List Setting}

theorem last?_eq_of_secretOf (alike : List.Forall₂ Setting.Alike settings settings') {setter : Setter}
    (same : secretOf setter settings = secretOf setter settings') : last? setter settings = last? setter settings' := by
  rcases last?_alike alike setter with ⟨none, none'⟩ | ⟨choice, choice', last, last', h⟩
  · rw [none, none']
  · unfold secretOf at same
    rw [last, last', Option.bind_some, Option.bind_some] at same
    rw [last, last', h.eq_of_secret same]

/-- Only credentials have secrets. -/
theorem secretOf_eq_none {setter : Setter} (hb : setter ≠ .basicAuth) (hi : setter ≠ .identityCertificate)
    (settings : List Setting) : secretOf setter settings = none := by
  unfold secretOf
  cases last : last? setter settings with
  | none => rfl
  | some choice =>
    have kind := (last?_eq_some last).2
    rw [Option.bind_some]
    cases choice with
    | basicAuth => exact absurd kind.symm hb
    | identityCertificate => exact absurd kind.symm hi
    | _ => rfl

/-- The last secrets stand in the draft. -/
theorem secretOf_eq_of_draft (h : Draft.ofSettings settings = Draft.ofSettings settings') (setter : Setter) :
    secretOf setter settings = secretOf setter settings' := by
  rw [Draft.ofSettings_eq, Draft.ofSettings_eq] at h
  by_cases hb : setter = .basicAuth
  · subst hb
    exact congrArg Draft.password h
  by_cases hi : setter = .identityCertificate
  · subst hi
    exact congrArg Draft.keyPem h
  rw [secretOf_eq_none hb hi, secretOf_eq_none hb hi]

end

/-- The choice at the end of the first choices is the last one of its kind. -/
theorem last?_take_succ {settings : List Setting} {n : Nat} {choice : Setting} (h : settings[n]? = some choice) :
    last? choice.setter (settings.take (n + 1)) = some choice := by
  rw [List.take_add_one, h, Option.toList_some, last?_append, last?_singleton, if_pos rfl, Option.some_or]

end Config

namespace Draft

open Config

variable {settings settings' : List Setting}

/-- Drafts of choices that are alike are shown alike if and only if the last secrets are the same. -/
theorem inspect_ofSettings_eq_iff (alike : List.Forall₂ Setting.Alike settings settings') :
    (ofSettings settings).inspect = (ofSettings settings').inspect ↔
      ∀ setter, secretOf setter settings = secretOf setter settings' := by
  constructor
  · intro shown
    exact secretOf_eq_of_draft (inspect_injective shown)
  · intro same
    rw [ofSettings_congr fun setter => last?_eq_of_secretOf alike (same setter)]

/-- What differs in one secret at least is told apart when the choice has just been made. -/
theorem eq_of_inspect_take (alike : List.Forall₂ Setting.Alike settings settings')
    (shown : ∀ n, (ofSettings (settings.take n)).inspect = (ofSettings (settings'.take n)).inspect) :
    settings = settings' := by
  refine List.ext_getElem? fun n => ?_
  rcases Nat.lt_or_ge n settings.length with inside | beyond
  · have inside' : n < settings'.length := alike.length_eq ▸ inside
    have h : settings[n].Alike settings'[n] := (List.forall₂_iff_get.1 alike).2 n inside inside'
    have first : settings[n]? = some settings[n] := List.getElem?_eq_getElem inside
    have second : settings'[n]? = some settings'[n] := List.getElem?_eq_getElem inside'
    have secrets := (inspect_ofSettings_eq_iff (List.forall₂_take (n + 1) alike)).1 (shown (n + 1)) settings[n].setter
    have same : settings[n].secret? = settings'[n].secret? := by
      unfold secretOf at secrets
      rw [last?_take_succ first, h.setter_eq, last?_take_succ second] at secrets
      exact secrets
    rw [first, second, h.eq_of_secret same]
  · have beyond' : settings'.length ≤ n := alike.length_eq ▸ beyond
    rw [List.getElem?_eq_none beyond, List.getElem?_eq_none beyond']

/-- Choices that differ in passwords and in texts of private keys alone. After any number of them the
drafts are shown alike if and only if the last password and the last key of both are the same; hence
they are shown alike all along if and only if no choice differs. -/
theorem shown_alike_iff (alike : List.Forall₂ Setting.Alike settings settings') :
    (∀ n, (ofSettings (settings.take n)).inspect = (ofSettings (settings'.take n)).inspect ↔
      ∀ setter, secretOf setter (settings.take n) = secretOf setter (settings'.take n)) ∧
    ((∀ n, (ofSettings (settings.take n)).inspect = (ofSettings (settings'.take n)).inspect) ↔
      settings = settings') := by
  constructor
  · intro n
    exact inspect_ofSettings_eq_iff (List.forall₂_take n alike)
  · constructor
    · exact eq_of_inspect_take alike
    · rintro rfl n
      rfl

/-- A password that is replaced by another choice is shown until then. -/
theorem shown_alike_iff_replaced :
    List.Forall₂ Setting.Alike [.basicAuth "admin" "hunter2", .basicAuth "admin" ""]
        [.basicAuth "admin" "letmein", .basicAuth "admin" ""] ∧
      (ofSettings [.basicAuth "admin" "hunter2", .basicAuth "admin" ""]).inspect =
        (ofSettings [.basicAuth "admin" "letmein", .basicAuth "admin" ""]).inspect ∧
      ¬∀ n, (ofSettings ([.basicAuth "admin" "hunter2", .basicAuth "admin" ""].take n)).inspect =
        (ofSettings ([.basicAuth "admin" "letmein", .basicAuth "admin" ""].take n)).inspect := by
  have alike : List.Forall₂ Setting.Alike [.basicAuth "admin" "hunter2", .basicAuth "admin" ""]
      [.basicAuth "admin" "letmein", .basicAuth "admin" ""] :=
    .cons (.basicAuth _ _ _) (.cons (.same _) .nil)
  obtain ⟨after, always⟩ := shown_alike_iff alike
  refine ⟨alike, (after 2).2 ?_, ?_⟩
  · intro setter
    cases setter <;> rfl
  · intro shown
    exact absurd (always.1 shown) (by decide)

/-- A password and the text of a private key are shown as they are, with no mask. -/
theorem inspect_secrets :
    List.Forall₂ Setting.Alike [.basicAuth "admin" "hunter2"] [.basicAuth "admin" "letmein"] ∧
      (ofSettings [.basicAuth "admin" "hunter2"]).inspect =
        "CandlepinConfigBuilder \x7b username: Some(\"admin\"), password: Some(\"hunter2\"), cert_pem: None, " ++
          "key_pem: None, host: None, port: None, base_url: None, user_agent_prefix: None, " ++
          "accept_invalid_certs: false \x7d" ∧
      (ofSettings [.basicAuth "admin" "hunter2"]).inspect ≠ (ofSettings [.basicAuth "admin" "letmein"]).inspect ∧
      List.Forall₂ Setting.Alike [.identityCertificate "cert" "key"] [.identityCertificate "cert" "other"] ∧
      (ofSettings [.identityCertificate "cert" "key"]).inspect ≠
        (ofSettings [.identityCertificate "cert" "other"]).inspect := by
  refine ⟨.cons (.basicAuth _ _ _) .nil, ?_, ?_, .cons (.identityCertificate _ _ _) .nil, ?_⟩
  · decide +kernel
  · decide +kernel
  · decide +kernel

end Draft

end EntitlementClient
