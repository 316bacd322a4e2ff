/-
Series of choices: of every kind the last choice counts, and no other. From the last choices comes
the configuration, or the first thing that is wrong with them: both kinds of credentials or none, then
the credentials, then the host, and then the base URL.
-/
import EntitlementClient.Config.Basic
import EntitlementClient.Proofs.Choices
import EntitlementClient.Proofs.Identity.Basic
import EntitlementClient.Proofs.Trace
import Mathlib.Data.List.Induction

namespace EntitlementClient

namespace Config

/-- The kinds of choices. -/
inductive Setter
  | basicAuth
  | identityCertificate
  | host
  | port
  | baseUrl
  | userAgentPrefix
  | acceptInvalidCertificates
deriving DecidableEq

namespace Setting

/-- The kind of a choice. -/
def setter : Setting → Setter
  | basicAuth _ _ => .basicAuth
  | identityCertificate _ _ => .identityCertificate
  | host _ => .host
  | port _ => .port
  | baseUrl _ => .baseUrl
  | userAgentPrefix _ => .userAgentPrefix
  | acceptInvalidCertificates _ => .acceptInvalidCertificates

/-- The texts of the credentials in a choice: the username and the password, or the certificate and
its key. -/
def pair? : Setting → Option (String × String)
  | basicAuth username password => some (username, password)
  | identityCertificate certificate key => some (certificate, key)
  | _ => none

/-- The text in a choice of a host, a base URL or what the client calls itself. -/
def text? : Setting → Option String
  | host text | baseUrl text | userAgentPrefix text => some text
  | _ => none

/-- The number in a choice of a port. -/
def port? : Setting → Option UInt16
  | port number => some number
  | _ => none

/-- Whether a choice is to accept every certificate of a server. -/
def accepts : Setting → Bool
  | acceptInvalidCertificates accept => accept
  | _ => false

end Setting

/-! ## Last choices -/

/-- A choice, if it is of a kind. -/
def Setting.ofKind? (setter : Setter) (choice : Setting) : Option Setting :=
  if choice.setter = setter then some choice else none

/-- The last choice of a kind. -/
def last? (setter : Setter) (settings : List Setting) : Option Setting :=
  lastOf? (Setting.ofKind? setter) settings

@[simp] theorem last?_nil (setter : Setter) : last? setter [] = none := rfl

theorem last?_append (setter : Setter) (a b : List Setting) :
    last? setter (a ++ b) = (last? setter b).or (last? setter a) :=
  lastOf?_append _ a b

theorem last?_singleton (setter : Setter) (choice : Setting) :
    last? setter [choice] = if choice.setter = setter then some choice else none :=
  lastOf?_singleton _ choice

theorem last?_eq_none {setter : Setter} {settings : List Setting} :
    last? setter settings = none ↔ ∀ choice ∈ settings, choice.setter ≠ setter := by
  simp only [last?, lastOf?_eq_none, Setting.ofKind?, ite_eq_right_iff, reduceCtorEq, imp_false, ne_eq]

theorem exists_last?_iff {setter : Setter} {settings : List Setting} :
    (∃ choice, last? setter settings = some choice) ↔ ∃ choice ∈ settings, choice.setter = setter := by
  rw [← Option.isSome_iff_exists, Option.isSome_iff_ne_none, Ne, last?_eq_none]
  push Not
  rfl

theorem last?_eq_some {setter : Setter} {settings : List Setting} {choice : Setting}
    (h : last? setter settings = some choice) : choice ∈ settings ∧ choice.setter = setter := by
  obtain ⟨choice', mem, kind⟩ := exists_of_lastOf?_eq_some h
  obtain ⟨own, eq⟩ := Option.ite_none_right_eq_some.1 kind
  cases eq
  exact ⟨mem, own⟩

/-- Two neighbours of different kinds can change places. -/
theorem last?_swap {a b : Setting} (h : a.setter ≠ b.setter) (setter : Setter) (before after : List Setting) :
    last? setter (before ++ a :: b :: after) = last? setter (before ++ b :: a :: after) := by
  have split : ∀ x y : Setting, before ++ x :: y :: after = before ++ ([x] ++ ([y] ++ after)) := fun _ _ => rfl
  simp only [split, last?_append, last?_singleton]
  -- one of the two is none of the kind that is looked for
  by_cases ha : a.setter = setter
  · have hb : b.setter ≠ setter := fun hb => h (ha.trans hb.symm)
    simp [ha, hb]
  · simp [ha]

/-- A choice before another one of its kind does not matter. -/
theorem last?_forget {a b : Setting} (h : a.setter = b.setter) (setter : Setter) (before between after : List Setting) :
    last? setter (before ++ a :: (between ++ b :: after)) = last? setter (before ++ (between ++ b :: after)) := by
  have split : ∀ x rest, before ++ x :: rest = before ++ ([x] ++ rest) := fun _ _ => rfl
  rw [split, last?_append, last?_append, last?_append setter before, last?_append setter between]
  have later : ∀ rest, last? setter (b :: rest) = (last? setter rest).or (last? setter [b]) :=
    last?_append setter [b]
  rw [later, last?_singleton, last?_singleton, h]
  -- the later one is of the kind that is looked for if and only if the earlier one is
  by_cases hb : b.setter = setter
  · simp [hb]
  · simp [hb]

end Config

namespace Draft

open Config

/-- The draft in which the last choices stand. -/
def ofLast (last : Setter → Option Setting) : Draft where
  username := (last .basicAuth).bind fun choice => choice.pair?.map (·.1)
  password := (last .basicAuth).bind fun choice => choice.pair?.map (·.2)
  certificatePem := (last .identityCertificate).bind fun choice => choice.pair?.map (·.1)
  keyPem := (last .identityCertificate).bind fun choice => choice.pair?.map (·.2)
  host := (last .host).bind Setting.text?
  port := (last .port).bind Setting.port?
  baseUrl := (last .baseUrl).bind Setting.text?
  userAgentPrefix := (last .userAgentPrefix).bind Setting.text?
  acceptInvalidCertificates := (last .acceptInvalidCertificates).any Setting.accepts

/-- One more choice is the last of its kind. -/
theorem set_ofLast (last : Setter → Option Setting) (choice : Setting) :
    (ofLast last).set choice = ofLast fun setter => if choice.setter = setter then some choice else last setter := by
  cases choice <;> rfl

/-- A draft is made by the last choices. -/
theorem ofSettings_eq (settings : List Setting) : ofSettings settings = ofLast fun setter => last? setter settings := by
  -- from the end of the series, where one more choice replaces the last one of its kind
  induction settings using List.reverseRecOn with
  | nil => rfl
  | append_singleton settings choice ih =>
    have step : ofSettings (settings ++ [choice]) = (ofSettings settings).set choice := by
      simp only [ofSettings, List.foldl_append, List.foldl_cons, List.foldl_nil]
    rw [step, ih, set_ofLast]
    congr 1
    funext setter
    rw [last?_append, last?_singleton]
    split <;> rfl

theorem ofSettings_congr {settings settings' : List Setting}
    (h : ∀ setter, last? setter settings = last? setter settings') : ofSettings settings = ofSettings settings' := by
  rw [ofSettings_eq, ofSettings_eq, funext h]

end Draft

/-! ## Errors of the parts -/

/-- An error that is not about which kinds of credentials there are. -/
def ClientError.OfAPart (e : ClientError) : Prop :=
  e ≠ .conflictingCredentials ∧ e ≠ .missingCredentials

theorem Username.of_error {text : String} {e : ClientError} (h : Username.of text = .error e) : e = .emptyUsername := by
  unfold Username.of at h
  split at h
  · cases h
  · cases h; rfl

theorem Username.of_ok {text : String} {username : Username} (h : Username.of text = .ok username) :
    username.text = text := by
  unfold Username.of at h
  split at h
  · cases h; rfl
  · cases h

theorem Host.of_error {raw : String} {e : ClientError} (h : Host.of raw = .error e) :
    ∃ text, e = .invalidHost text := by
  simp only [Host.of] at h
  split at h
  · cases h
  · cases h; exact ⟨_, rfl⟩

theorem Host.of_ok {raw : String} {host : Host} (h : Host.of raw = .ok host) :
    host.text = String.ofList (Text.trim raw.toList) := by
  simp only [Host.of] at h
  split at h
  · cases h; rfl
  · cases h

theorem BaseUrl.of_error {raw : String} {e : ClientError} (h : BaseUrl.of raw = .error e) :
    e = .invalidBaseUrl raw := by
  unfold BaseUrl.of at h
  split at h
  · cases h; rfl
  · split at h
    · cases h
    · cases h; rfl

/-! ## Configurations -/

namespace Config

/-- The credentials in a choice of credentials. -/
def Setting.credentials : Setting → Except ClientError Credentials
  | basicAuth username password => (Username.of username).map fun name => .basic name ⟨password⟩
  | identityCertificate certificate key => (IdentityCertificate.read certificate key).map .certificate
  | _ => .error .missingCredentials

/-- The credentials come from one choice: it is the last one of a kind, and the other kind has not been
chosen at all. -/
def Authenticates (choice : Setting) (settings : List Setting) : Prop :=
  (last? .basicAuth settings = some choice ∧ last? .identityCertificate settings = none) ∨
    (last? .basicAuth settings = none ∧ last? .identityCertificate settings = some choice)

/-- The host of a series of choices. -/
def hostOf (settings : List Setting) : Except ClientError Host :=
  match (last? .host settings).bind Setting.text? with
  | none => .ok .standard
  | some text => Host.of text

/-- The port of a series of choices. -/
def portOf (settings : List Setting) : UInt16 :=
  ((last? .port settings).bind Setting.port?).getD standardPort

/-- The base URL of a series of choices for a host. -/
def baseUrlOf (settings : List Setting) (host : Host) : Except ClientError BaseUrl :=
  match (last? .baseUrl settings).bind Setting.text? with
  | none => .ok (.ofHost host (portOf settings))
  | some text => BaseUrl.of text

theorem last?_basicAuth {settings : List Setting} {choice : Setting} (h : last? .basicAuth settings = some choice) :
    ∃ username password, choice = .basicAuth username password := by
  have kind := (last?_eq_some h).2
  cases choice with
  | basicAuth username password => exact ⟨username, password, rfl⟩
  | _ => cases kind

theorem last?_identityCertificate {settings : List Setting} {choice : Setting}
    (h : last? .identityCertificate settings = some choice) :
    ∃ certificate key, choice = .identityCertificate certificate key := by
  have kind := (last?_eq_some h).2
  cases choice with
  | identityCertificate certificate key => exact ⟨certificate, key, rfl⟩
  | _ => cases kind

/-- Credentials are a username with a password or a certificate, as has been chosen. -/
theorem Authenticates.credentials_ok {settings : List Setting} {choice : Setting} {credentials : Credentials}
    (h : Authenticates choice settings) (hc : choice.credentials = .ok credentials) :
    (∃ name password, last? .basicAuth settings = some (.basicAuth name.text password) ∧
        last? .identityCertificate settings = none ∧ credentials = .basic name ⟨password⟩) ∨
      ∃ certificate key identity, last? .basicAuth settings = none ∧
        last? .identityCertificate settings = some (.identityCertificate certificate key) ∧
          IdentityCertificate.read certificate key = .ok identity ∧ credentials = .certificate identity := by
  rcases h with ⟨chosen, other⟩ | ⟨other, chosen⟩
  · obtain ⟨username, password, rfl⟩ := last?_basicAuth chosen
    obtain ⟨name, hu, rfl⟩ := exists_of_map_eq_ok hc
    exact .inl ⟨name, password, by rw [Username.of_ok hu]; exact chosen, other, rfl⟩
  · obtain ⟨certificate, key, rfl⟩ := last?_identityCertificate chosen
    obtain ⟨identity, hr, rfl⟩ := exists_of_map_eq_ok hc
    exact .inr ⟨certificate, key, identity, other, chosen, hr, rfl⟩

theorem Authenticates.credentials_error {settings : List Setting} {choice : Setting} {e : ClientError}
    (h : Authenticates choice settings) (he : choice.credentials = .error e) : e.OfAPart := by
  rcases h with ⟨h, -⟩ | ⟨-, h⟩
  · obtain ⟨username, password, rfl⟩ := last?_basicAuth h
    rw [Username.of_error (error_of_map he)]
    exact ⟨nofun, nofun⟩
  · obtain ⟨certificate, key, rfl⟩ := last?_identityCertificate h
    rcases IdentityCertificate.read_error (error_of_map he) with ⟨fault, rfl⟩ | ⟨subject, rfl⟩ <;>
      exact ⟨nofun, nofun⟩

theorem hostOf_error {settings : List Setting} {e : ClientError} (h : hostOf settings = .error e) : e.OfAPart := by
  unfold hostOf at h
  split at h
  · cases h
  · obtain ⟨text, rfl⟩ := Host.of_error h
    exact ⟨nofun, nofun⟩

theorem hostOf_ok {settings : List Setting} {host : Host} (h : hostOf settings = .ok host) : host.text =
    String.ofList (Text.trim (((last? .host settings).bind Setting.text?).getD "localhost").toList) := by
  unfold hostOf at h
  rcases hl : (last? .host settings).bind Setting.text? with _ | text
  · rw [hl] at h; cases h; decide
  · rw [hl] at h; exact Host.of_ok h

theorem baseUrlOf_error {settings : List Setting} {host : Host} {e : ClientError}
    (h : baseUrlOf settings host = .error e) : e.OfAPart := by
  unfold baseUrlOf at h
  split at h
  · cases h
  · rw [BaseUrl.of_error h]
    exact ⟨nofun, nofun⟩

end Config

namespace Draft

open Config

/-- The credentials of a draft are those of the choice that they come from. -/
theorem credentials_of_authenticates {settings : List Setting} {choice : Setting} (h : Authenticates choice settings) :
    (ofSettings settings).credentials.result = choice.credentials := by
  rw [ofSettings_eq]
  rcases h with ⟨chosen, other⟩ | ⟨other, chosen⟩
  · obtain ⟨username, password, rfl⟩ := last?_basicAuth chosen
    simp only [credentials, ofLast, chosen, other, Setting.pair?, Option.bind_some, Option.bind_none, Option.map_some,
      Traced.result_bind, Traced.result_ofExcept, Traced.result_pure, Setting.credentials, Option.getD_some]
    rcases Username.of username with e | name <;> rfl
  · obtain ⟨certificate, key, rfl⟩ := last?_identityCertificate chosen
    simp only [credentials, ofLast, chosen, other, Setting.pair?, Option.bind_some, Option.bind_none, Option.map_some,
      IdentityCertificate.load, Traced.result_bind, Traced.result_ofExcept, Traced.result_pure, Traced.result_log,
      Setting.credentials, Option.getD_some]
    rcases IdentityCertificate.read certificate key with e | identity <;> rfl

/-- The parts of a configuration are checked one after another. -/
theorem build_result {settings : List Setting} {choice : Setting} (h : Authenticates choice settings) :
    (ofSettings settings).build.result = do
      let credentials ← choice.credentials
      let host ← hostOf settings
      let baseUrl ← baseUrlOf settings host
      return {
        credentials
        host
        port := portOf settings
        baseUrl
        userAgentPrefix := (last? .userAgentPrefix settings).bind Setting.text?
        acceptInvalidCertificates := (last? .acceptInvalidCertificates settings).any Setting.accepts } := by
  rw [build, Traced.result_bind, credentials_of_authenticates h, ofSettings_eq]
  have host : (ofLast fun setter => last? setter settings).checkedHost = hostOf settings := rfl
  have baseUrl : (ofLast fun setter => last? setter settings).checkedBaseUrl = baseUrlOf settings := rfl
  simp only [host, baseUrl, Traced.result_bind, Traced.result_ofExcept, Traced.result_pure]
  rfl

theorem credentials_of_both {settings : List Setting} {choice other : Setting}
    (hc : last? .basicAuth settings = some choice) (ho : last? .identityCertificate settings = some other) :
    (ofSettings settings).credentials = .fail .conflictingCredentials := by
  obtain ⟨username, password, rfl⟩ := last?_basicAuth hc
  obtain ⟨certificate, key, rfl⟩ := last?_identityCertificate ho
  rw [ofSettings_eq]
  simp only [credentials, ofLast, hc, ho, Setting.pair?, Option.bind_some, Option.map_some]

theorem credentials_of_none {settings : List Setting} (hb : last? .basicAuth settings = none)
    (hi : last? .identityCertificate settings = none) :
    (ofSettings settings).credentials = .fail .missingCredentials := by
  rw [ofSettings_eq]
  simp only [credentials, ofLast, hb, hi, Option.bind_none]

theorem build_of_credentials {draft : Draft} {e : ClientError} (h : draft.credentials = .fail e) :
    draft.build.result = .error e := by
  rw [build, h]
  rfl

theorem build_of_both {settings : List Setting} {choice other : Setting} (hc : last? .basicAuth settings = some choice)
    (ho : last? .identityCertificate settings = some other) :
    (ofSettings settings).build.result = .error .conflictingCredentials :=
  build_of_credentials (credentials_of_both hc ho)

theorem build_of_none {settings : List Setting} (hb : last? .basicAuth settings = none)
    (hi : last? .identityCertificate settings = none) :
    (ofSettings settings).build.result = .error .missingCredentials :=
  build_of_credentials (credentials_of_none hb hi)

/-- Once there is a choice that the credentials come from, all that can be wrong is one of the parts. -/
theorem build_error {settings : List Setting} {choice : Setting} {e : ClientError} (h : Authenticates choice settings)
    (he : (ofSettings settings).build.result = .error e) : e.OfAPart := by
  rw [build_result h] at he
  rcases error_of_bind he with hc | ⟨credentials, -, he⟩
  · exact h.credentials_error hc
  rcases error_of_bind he with hh | ⟨host, -, he⟩
  · exact hostOf_error hh
  rcases error_of_bind he with hu | ⟨baseUrl, -, he⟩
  · exact baseUrlOf_error hu
  · cases he

/-- Both kinds of credentials have been chosen, or none, or there is one choice that they come from. -/
theorem kinds_cases (settings : List Setting) :
    (∃ choice other, last? .basicAuth settings = some choice ∧ last? .identityCertificate settings = some other) ∨
      (last? .basicAuth settings = none ∧ last? .identityCertificate settings = none) ∨
        ∃ choice, Authenticates choice settings := by
  rcases hb : last? .basicAuth settings with _ | choice <;>
    rcases hi : last? .identityCertificate settings with _ | other
  · exact .inr (.inl ⟨rfl, rfl⟩)
  · exact .inr (.inr ⟨other, .inr ⟨hb, hi⟩⟩)
  · exact .inr (.inr ⟨choice, .inl ⟨hb, hi⟩⟩)
  · exact .inl ⟨choice, other, rfl, rfl⟩

/-- A configuration has been made of parts that are all in order. -/
theorem build_ok {settings : List Setting} {config : Config} (h : (ofSettings settings).build.result = .ok config) :
    (∃ choice, Authenticates choice settings ∧ choice.credentials = .ok config.credentials) ∧
      hostOf settings = .ok config.host ∧ baseUrlOf settings config.host = .ok config.baseUrl := by
  rcases kinds_cases settings with ⟨choice, other, hb, hi⟩ | ⟨hb, hi⟩ | ⟨choice, hc⟩
  · rw [build_of_both hb hi] at h; cases h
  · rw [build_of_none hb hi] at h; cases h
  rw [build_result hc] at h
  obtain ⟨credentials, hk, h⟩ := exists_of_bind_eq_ok h
  obtain ⟨host, hh, h⟩ := exists_of_bind_eq_ok h
  obtain ⟨baseUrl, hu, h⟩ := exists_of_bind_eq_ok h
  cases h
  exact ⟨⟨choice, hc, hk⟩, hh, hu⟩

/-- What is known of the configuration that a series of choices makes. -/
structure Determined (settings : List Setting) : Prop where
  /-- Of every kind the last choice counts, and no other. -/
  lastCounts : ∀ settings', (∀ setter, last? setter settings' = last? setter settings) →
    (ofSettings settings').build = (ofSettings settings).build
  commutes : ∀ before a b after, settings = before ++ a :: b :: after → a.setter ≠ b.setter →
    (ofSettings (before ++ b :: a :: after)).build = (ofSettings settings).build
  forgets : ∀ before a between b after, settings = before ++ a :: (between ++ b :: after) → a.setter = b.setter →
    (ofSettings (before ++ (between ++ b :: after))).build = (ofSettings settings).build
  conflicting : (ofSettings settings).build.result = .error .conflictingCredentials ↔
    (∃ choice ∈ settings, choice.setter = .basicAuth) ∧ ∃ choice ∈ settings, choice.setter = .identityCertificate
  missing : (ofSettings settings).build.result = .error .missingCredentials ↔
    (¬∃ choice ∈ settings, choice.setter = .basicAuth) ∧ ¬∃ choice ∈ settings, choice.setter = .identityCertificate
  credentialsFirst : ∀ choice e, Authenticates choice settings → choice.credentials = .error e →
    (ofSettings settings).build.result = .error e
  /-- The host is checked whether there is a base URL or not. -/
  hostNext : ∀ choice credentials e, Authenticates choice settings → choice.credentials = .ok credentials →
    hostOf settings = .error e → (ofSettings settings).build.result = .error e
  baseUrlLast : ∀ choice credentials host e, Authenticates choice settings → choice.credentials = .ok credentials →
    hostOf settings = .ok host → baseUrlOf settings host = .error e → (ofSettings settings).build.result = .error e
  built : ∀ choice credentials host baseUrl, Authenticates choice settings → choice.credentials = .ok credentials →
    hostOf settings = .ok host → baseUrlOf settings host = .ok baseUrl →
      ∃ config, (ofSettings settings).build.result = .ok config ∧ config.credentials = credentials ∧
        config.host = host ∧ config.port = portOf settings ∧ config.baseUrl = baseUrl ∧
        config.userAgentPrefix = (last? .userAgentPrefix settings).bind Setting.text? ∧
        config.acceptInvalidCertificates = (last? .acceptInvalidCertificates settings).any Setting.accepts

theorem ofSettings_determined (settings : List Setting) : Determined settings where
  lastCounts settings' h := by rw [ofSettings_congr h]
  commutes := by
    rintro before a b after rfl h
    rw [ofSettings_congr fun setter => last?_swap h.symm setter before after]
  forgets := by
    rintro before a between b after rfl h
    rw [ofSettings_congr fun setter => (last?_forget h setter before between after).symm]
  conflicting := by
    rw [← exists_last?_iff, ← exists_last?_iff]
    constructor
    · intro h
      rcases kinds_cases settings with ⟨choice, other, hb, hi⟩ | ⟨hb, hi⟩ | ⟨choice, hc⟩
      · exact ⟨⟨choice, hb⟩, other, hi⟩
      · rw [build_of_none hb hi] at h
        cases h
      · -- one part is not in order, which is another error
        exact absurd rfl (build_error hc h).1
    · rintro ⟨⟨choice, hb⟩, other, hi⟩
      exact build_of_both hb hi
  missing := by
    rw [← exists_last?_iff, ← exists_last?_iff]
    constructor
    · intro h
      rcases kinds_cases settings with ⟨choice, other, hb, hi⟩ | ⟨hb, hi⟩ | ⟨choice, hc⟩
      · rw [build_of_both hb hi] at h
        cases h
      · simp [hb, hi]
      · exact absurd rfl (build_error hc h).2
    · rintro ⟨hb, hi⟩
      exact build_of_none (Option.eq_none_iff_forall_ne_some.2 (not_exists.1 hb))
        (Option.eq_none_iff_forall_ne_some.2 (not_exists.1 hi))
  credentialsFirst choice e hc he := by
    rw [build_result hc, he]
    rfl
  hostNext choice credentials e hc hk he := by
    rw [build_result hc, hk, he]
    rfl
  baseUrlLast choice credentials host e hc hk hh he := by
    rw [build_result hc, hk, hh]
    simp only [bind, Except.bind, he]
  built choice credentials host baseUrl hc hk hh hu := by
    rw [build_result hc, hk, hh]
    simp only [bind, Except.bind, hu]
    exact ⟨_, rfl, rfl, rfl, rfl, rfl, rfl, rfl⟩

end Draft

end EntitlementClient
