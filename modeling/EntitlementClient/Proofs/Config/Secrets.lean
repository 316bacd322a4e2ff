/-
Choices that differ in their secrets alone: in passwords, and in the texts of private keys that are
accepted and can be loaded. What is made of them differs in the same way, and the texts for people to
read and the lines in the log do not differ at all.
-/
import EntitlementClient.Http.Client
import EntitlementClient.Proofs.Config.Settings

namespace EntitlementClient

open EntitlementClient.Http

namespace Config

/-- Two choices that differ in the password or in the text of the private key alone. -/
inductive Setting.Alike : Setting → Setting → Prop
  | basicAuth (username password password' : String) :
    Alike (.basicAuth username password) (.basicAuth username password')
  | identityCertificate (certificate key key' : String) :
    Alike (.identityCertificate certificate key) (.identityCertificate certificate key')
  | same (choice : Setting) : Alike choice choice

theorem Setting.Alike.setter_eq {a b : Setting} (h : a.Alike b) : a.setter = b.setter := by
  cases h <;> rfl

theorem Setting.Alike.eq {a b : Setting} (h : a.Alike b) (hb : a.setter ≠ .basicAuth)
    (hi : a.setter ≠ .identityCertificate) : a = b := by
  cases h with
  | basicAuth => exact absurd rfl hb
  | identityCertificate => exact absurd rfl hi
  | same => rfl

theorem last?_cons (setter : Setter) (choice : Setting) (settings : List Setting) :
    last? setter (choice :: settings) = (last? setter settings).or (last? setter [choice]) :=
  last?_append setter [choice] settings

section

variable {settings settings' : List Setting}

/-- The last choices of a kind are alike, or there is none in both series. -/
theorem last?_alike (h : List.Forall₂ Setting.Alike settings settings') (setter : Setter) :
    (last? setter settings = none ∧ last? setter settings' = none) ∨
      ∃ choice choice', last? setter settings = some choice ∧ last? setter settings' = some choice' ∧
        choice.Alike choice' := by
  induction h with
  | nil => exact .inl ⟨rfl, rfl⟩
  | @cons a b l l' hab _ ih =>
    rw [last?_cons, last?_cons setter b, last?_singleton, last?_singleton, hab.setter_eq]
    rcases ih with ⟨hl, hl'⟩ | ⟨choice, choice', hl, hl', alike⟩
    · -- none follows, so these two are the last ones if they are of the kind at all
      rw [hl, hl', Option.none_or, Option.none_or]
      split
      · exact .inr ⟨a, b, rfl, rfl, hab⟩
      · exact .inl ⟨rfl, rfl⟩
    · rw [hl, hl']
      exact .inr ⟨choice, choice', rfl, rfl, alike⟩

/-- Choices of other things are the same. -/
theorem last?_eq_of_alike (h : List.Forall₂ Setting.Alike settings settings') {setter : Setter}
    (hb : setter ≠ .basicAuth) (hi : setter ≠ .identityCertificate) :
    last? setter settings = last? setter settings' := by
  rcases last?_alike h setter with ⟨hl, hl'⟩ | ⟨choice, choice', hl, hl', alike⟩
  · rw [hl, hl']
  · have kind := (last?_eq_some hl).2
    rw [hl, hl', alike.eq (kind ▸ hb) (kind ▸ hi)]

end

/-! ## Keys -/

/-- A private key is accepted, and can be loaded with the certificate. -/
structure Usable (certificate key : String) : Prop where
  accepted : IdentityCertificate.checkKey key = .ok ()
  loads : ∀ identity, IdentityCertificate.read certificate key = .ok identity →
    ∃ presentation, Presentation.ofIdentity identity = .ok presentation

/-- Two choices of one identity certificate have the same key, or two keys that can be used. -/
def Setting.KeysUsable (choice choice' : Setting) : Prop :=
  ∀ certificate key key', choice = .identityCertificate certificate key →
    choice' = .identityCertificate certificate key' → key ≠ key' → Usable certificate key ∧ Usable certificate key'

/-- So do two series of choices in the end. -/
def KeysUsable (settings settings' : List Setting) : Prop :=
  ∀ choice choice', last? .identityCertificate settings = some choice →
    last? .identityCertificate settings' = some choice' → choice.KeysUsable choice'

end Config

/-! ## Credentials -/

/-- Credentials that differ in the password or in the text of the private key alone. -/
inductive Credentials.Alike : Credentials → Credentials → Prop
  | basic (username : Username) (password password' : Password) :
    Alike (.basic username password) (.basic username password')
  | certificate (identity : IdentityCertificate) (key : String) :
    Alike (.certificate identity) (.certificate { identity with keyPem := key })

namespace Credentials.Alike

variable {c c' : Credentials}

theorem refl : ∀ c : Credentials, c.Alike c
  | .basic username password => .basic username password password
  | .certificate identity => .certificate identity identity.keyPem

theorem inspect_eq (h : c.Alike c') : c.inspect = c'.inspect := by
  cases h <;> rfl

theorem uuid?_eq (h : c.Alike c') : c.uuid? = c'.uuid? := by
  cases h <;> rfl

theorem mode_eq (h : c.Alike c') : c.mode = c'.mode := by
  cases h <;> rfl

theorem username_eq (h : c.Alike c') : (Client.basicAuth? c).map (·.1) = (Client.basicAuth? c').map (·.1) := by
  cases h <;> rfl

end Credentials.Alike

/-- Both credentials can be presented, or neither can for the same reason. -/
def Credentials.PresentedAlike (c c' : Credentials) : Prop :=
  Traced.Agree (fun _ _ => True) (Client.presentation? c) (Client.presentation? c')

namespace Config

open Traced (Agree)

/-- Choices that are alike give credentials that are alike and can be presented alike. -/
theorem Setting.Alike.credentials_agree {choice choice' : Setting} (h : choice.Alike choice')
    (keys : choice.KeysUsable choice') :
    Agree (fun c c' => c.Alike c' ∧ c.PresentedAlike c') choice.credentials choice'.credentials := by
  have reflexive : ∀ c : Credentials, c.Alike c ∧ c.PresentedAlike c :=
    fun c => ⟨.refl c, Agree.of_eq (fun _ => trivial) rfl⟩
  cases h with
  | same => exact Agree.of_eq reflexive rfl
  | basicAuth username password password' =>
    rcases hu : Username.of username with e | name
    · rw [credentials, credentials, hu]
      exact .error e
    · rw [credentials, credentials, hu]
      exact .ok ⟨.basic name _ _, .ok trivial⟩
  | identityCertificate certificate key key' =>
    by_cases same : key = key'
    · subst same
      exact Agree.of_eq reflexive rfl
    -- the key is read after the certificate, so another one that is accepted changes nothing before it
    obtain ⟨usable, usable'⟩ := keys certificate key key' rfl rfl same
    have read' := IdentityCertificate.read_of_checkKey usable.accepted usable'.accepted certificate
    rcases hr : IdentityCertificate.read certificate key with e | identity
    · rw [hr] at read'
      rw [credentials, credentials, hr, read']
      exact .error e
    · rw [hr] at read'
      obtain ⟨presentation, hp⟩ := usable.loads identity hr
      obtain ⟨presentation', hp'⟩ := usable'.loads _ read'
      rw [credentials, credentials, hr, read']
      refine .ok ⟨.certificate identity key', ?_⟩
      rw [Credentials.PresentedAlike, Client.presentation?, Client.presentation?, hp, hp']
      exact .ok trivial

/-! ## Configurations -/

/-- Configurations that differ in the secrets of their credentials alone. -/
structure Alike (config config' : Config) : Prop where
  credentials : config.credentials.Alike config'.credentials
  presented : config.credentials.PresentedAlike config'.credentials
  host : config.host = config'.host
  port : config.port = config'.port
  baseUrl : config.baseUrl = config'.baseUrl
  userAgentPrefix : config.userAgentPrefix = config'.userAgentPrefix
  acceptInvalidCertificates : config.acceptInvalidCertificates = config'.acceptInvalidCertificates

/-- Configurations are shown without their secrets. -/
theorem Alike.inspect_eq {config config' : Config} (h : config.Alike config') : config.inspect = config'.inspect := by
  unfold inspect
  rw [h.credentials.inspect_eq, h.host, h.port, h.baseUrl, h.userAgentPrefix, h.acceptInvalidCertificates]

end Config

/-- What is written to the log when credentials have been read. -/
def Credentials.lines : Credentials → List LogLine
  | .basic _ _ => []
  | .certificate identity => [.identityLoaded identity.uuid]

theorem Credentials.Alike.lines_eq {c c' : Credentials} (h : c.Alike c') : c.lines = c'.lines := by
  cases h <;> rfl

namespace Draft

open Config
open Traced (Agree)

theorem build_logLines (draft : Draft) : draft.build.logLines = draft.credentials.logLines := by
  simp [build]

theorem credentials_logLines {settings : List Setting} {choice : Setting} (h : Authenticates choice settings) :
    (ofSettings settings).credentials.logLines = Traced.ifOk Credentials.lines choice.credentials := by
  rw [ofSettings_eq]
  rcases h with ⟨chosen, other⟩ | ⟨other, chosen⟩
  · obtain ⟨username, password, rfl⟩ := last?_basicAuth chosen
    simp only [credentials, ofLast, chosen, other, Setting.pair?, Option.bind_some, Option.bind_none, Option.map_some,
      Setting.credentials]
    rcases Username.of username with e | name <;> rfl
  · obtain ⟨certificate, key, rfl⟩ := last?_identityCertificate chosen
    simp only [credentials, ofLast, chosen, other, Setting.pair?, Option.bind_some, Option.bind_none, Option.map_some,
      IdentityCertificate.load, Setting.credentials, Option.getD_some]
    rcases IdentityCertificate.read certificate key with e | identity <;> rfl

section

variable {settings settings' : List Setting}

/-- The credentials of two series of choices come from choices that are alike, or from none in both. -/
theorem kinds_alike (h : List.Forall₂ Setting.Alike settings settings') (keys : KeysUsable settings settings') :
    (∃ e, (ofSettings settings).credentials = .fail e ∧ (ofSettings settings').credentials = .fail e) ∨
      ∃ choice choice', Authenticates choice settings ∧ Authenticates choice' settings' ∧ choice.Alike choice' ∧
        choice.KeysUsable choice' := by
  rcases last?_alike h .basicAuth with ⟨hb, hb'⟩ | ⟨choice, choice', hb, hb', basic⟩ <;>
    rcases last?_alike h .identityCertificate with ⟨hi, hi'⟩ | ⟨other, other', hi, hi', identity⟩
  · exact .inl ⟨_, credentials_of_none hb hi, credentials_of_none hb' hi'⟩
  · exact .inr ⟨other, other', .inr ⟨hb, hi⟩, .inr ⟨hb', hi'⟩, identity, keys other other' hi hi'⟩
  · obtain ⟨username, password, rfl⟩ := last?_basicAuth hb
    exact .inr ⟨_, choice', .inl ⟨hb, hi⟩, .inl ⟨hb', hi'⟩, basic, nofun⟩
  · exact .inl ⟨_, credentials_of_both hb hi, credentials_of_both hb' hi'⟩

/-- Choices that are alike make configurations that are alike, or fail for the same reason. -/
theorem build_agree (h : List.Forall₂ Setting.Alike settings settings') (keys : KeysUsable settings settings') :
    Agree Config.Alike (ofSettings settings).build.result (ofSettings settings').build.result := by
  rcases kinds_alike h keys with ⟨e, none_built, none_built'⟩ | ⟨choice, choice', hc, hc', alike, usable⟩
  · rw [build_of_credentials none_built, build_of_credentials none_built']
    exact .error e
  · have other (setter : Setter) (hb : setter ≠ .basicAuth) (hi : setter ≠ .identityCertificate) :
        last? setter settings = last? setter settings' := last?_eq_of_alike h hb hi
    have host : hostOf settings = hostOf settings' := by
      rw [hostOf, hostOf, other .host (by decide) (by decide)]
    have port : portOf settings = portOf settings' := by
      rw [portOf, portOf, other .port (by decide) (by decide)]
    have baseUrl : baseUrlOf settings = baseUrlOf settings' := by
      funext host
      rw [baseUrlOf, baseUrlOf, other .baseUrl (by decide) (by decide), port]
    rw [build_result hc, build_result hc', host, port, baseUrl, other .userAgentPrefix (by decide) (by decide),
      other .acceptInvalidCertificates (by decide) (by decide)]
    refine (alike.credentials_agree usable).bind fun c c' hcc => ?_
    refine (Agree.of_eq (fun _ => rfl) rfl).bind fun host host' hhost => ?_
    subst hhost
    refine (Agree.of_eq (fun _ => rfl) rfl).bind fun url url' hurl => ?_
    subst hurl
    exact .ok ⟨hcc.1, hcc.2, rfl, rfl, rfl, rfl, rfl⟩

/-- They write the same to the log on the way. -/
theorem build_logLines_eq (h : List.Forall₂ Setting.Alike settings settings') (keys : KeysUsable settings settings') :
    (ofSettings settings).build.logLines = (ofSettings settings').build.logLines := by
  rw [build_logLines, build_logLines]
  rcases kinds_alike h keys with ⟨e, none_built, none_built'⟩ | ⟨choice, choice', hc, hc', alike, usable⟩
  · rw [none_built, none_built']
  · rw [credentials_logLines hc, credentials_logLines hc']
    exact (alike.credentials_agree usable).ifOk_eq fun c c' hcc => hcc.1.lines_eq

end

end Draft

end EntitlementClient
