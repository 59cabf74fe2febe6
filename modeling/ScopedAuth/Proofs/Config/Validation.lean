import ScopedAuth.Proofs.Config.Environment

/-!
# What a draft is checked for, and what becomes of it

A draft of a configuration may hold any number of mistakes.  `ConfigDraft.mistakes` lists them all,
in the order in which they are looked for: logging, fallback, credentials in the order of the file,
and within one login scheme, user name and password.  `ConfigDraft.reading` is what the draft says
if it holds none.  The check of a draft comes to just these two: it gives the reading, or the first
of the mistakes (`Config.check_eq_verdict`).

Neither is needed to say which drafts are in order and what they come to.  The first is said of the
logins in use (`ConfigDraft.Valid`), the second position by position (`ConfigDraft.ReadAs`).
-/

namespace ScopedAuth

/-! ### Names -/

/-- The mistake in a name: it is given, and is none of those known. -/
def unknownName (known : List String) (fault : String → ConfigFault) :
    Option String → List ConfigError
  | none => []
  | some name => if name ∈ known then [] else [.invalid (fault name)]

/-- There is no mistake in a name that is known or not given. -/
lemma unknownName_eq_nil_iff {known : List String} {fault : String → ConfigFault}
    {name : Option String} : unknownName known fault name = [] ↔ ∀ given ∈ name, given ∈ known := by
  cases name with
  | none => simp [unknownName]
  | some given => simp [unknownName]

/-- There is a mistake in any other name. -/
lemma unknownName_of_not_mem {known : List String} {fault : String → ConfigFault} {name : String}
    (h : name ∉ known) : unknownName known fault (some name) = [.invalid (fault name)] :=
  if_neg h

/-! ### Logins -/

namespace LoginDraft

/-- The schemes that a login may name. -/
def schemes : List String :=
  ["basic", "digest", "ntlm"]

/-- The mistake in the scheme of a login, if there is one. -/
def schemeMistakes (draft : LoginDraft) : List ConfigError :=
  unknownName schemes .unknownScheme draft.scheme

/-- The mistake in the user name of a login, if there is one. -/
def usernameMistakes (context : String) (draft : LoginDraft) : List ConfigError :=
  match draft.username with
  | none => [.invalid (.missingUsername context)]
  | some _ => []

/-- The mistake in where a login takes its password from, if there is one. -/
def passwordMistakes (env : Environment) (context : String) (draft : LoginDraft) :
    List ConfigError :=
  match draft.password, draft.passwordVariable with
  | _, none => []
  | some _, some _ => [.invalid (.twoPasswords context)]
  | none, some name =>
    match env.get? name with
    | some _ => []
    | none => [.missingVariable name]

/-- The mistakes in a login. -/
def mistakes (env : Environment) (context : String) (draft : LoginDraft) : List ConfigError :=
  draft.schemeMistakes ++ (draft.usernameMistakes context ++ draft.passwordMistakes env context)

/-- A login is in order. -/
structure Valid (env : Environment) (draft : LoginDraft) : Prop where
  scheme_known : ∀ name ∈ draft.scheme, name ∈ schemes
  username_given : draft.username.isSome = true
  one_source : ¬ (draft.password.isSome = true ∧ draft.passwordVariable.isSome = true)
  variable_set : ∀ name ∈ draft.passwordVariable, (env.get? name).isSome = true

/-- The family that a login is for. -/
def family (draft : LoginDraft) : Family :=
  if draft.scheme = some "ntlm" then .ntlm else .basic

/-- What a login comes to. -/
structure ReadAs (env : Environment) (draft : LoginDraft) (login : Login) : Prop where
  username_eq : draft.username = some login.username
  password_given : ∀ password ∈ draft.password, login.password.text = password
  password_held : ∀ name ∈ draft.passwordVariable, env.get? name = some login.password.text
  password_empty : draft.password = none → draft.passwordVariable = none → login.password.text = ""
  workstation_eq : login.workstation = draft.workstation
  domain_eq : login.domain = draft.domain

/-- What a login comes to if there is no mistake in it. -/
def reading (env : Environment) (draft : LoginDraft) : Login where
  username := draft.username.getD ""
  password := ⟨(draft.password.or (draft.passwordVariable.bind env.get?)).getD ""⟩
  workstation := draft.workstation
  domain := draft.domain

variable {env : Environment} {context : String} {draft : LoginDraft}

/-- There is no mistake in the user name if there is one. -/
lemma usernameMistakes_eq_nil_iff :
    draft.usernameMistakes context = [] ↔ draft.username.isSome = true := by
  unfold usernameMistakes
  cases draft.username <;> simp

/-- There is no mistake in the source of a password if there is one source at most, and the variable
is set that it names. -/
lemma passwordMistakes_eq_nil_iff : draft.passwordMistakes env context = [] ↔
    ¬ (draft.password.isSome = true ∧ draft.passwordVariable.isSome = true) ∧
      ∀ name ∈ draft.passwordVariable, (env.get? name).isSome = true := by
  unfold passwordMistakes
  cases draft.password with
  | none =>
    cases draft.passwordVariable with
    | none => simp
    | some name => cases hget : env.get? name <;> simp [hget]
  | some password => cases draft.passwordVariable <;> simp

/-- A login is in order if there is no mistake in it, whatever it is for. -/
lemma mistakes_eq_nil_iff : draft.mistakes env context = [] ↔ draft.Valid env := by
  rw [mistakes, List.append_eq_nil_iff, List.append_eq_nil_iff, schemeMistakes,
    unknownName_eq_nil_iff, usernameMistakes_eq_nil_iff, passwordMistakes_eq_nil_iff]
  constructor
  · rintro ⟨hscheme, husername, hsource, hvariable⟩
    exact ⟨hscheme, husername, hsource, hvariable⟩
  · rintro ⟨hscheme, husername, hsource, hvariable⟩
    exact ⟨hscheme, husername, hsource, hvariable⟩

/-- A login that is in order comes to its reading. -/
lemma Valid.readAs (h : draft.Valid env) : draft.ReadAs env (draft.reading env) := by
  obtain ⟨username, husername⟩ := Option.isSome_iff_exists.mp h.username_given
  refine ⟨?_, fun password hpassword => ?_, fun name hname => ?_, fun hpassword hvariable => ?_,
    rfl, rfl⟩
  · rw [reading, husername, Option.getD_some]
  · rw [reading, Option.mem_def.mp hpassword, Option.some_or, Option.getD_some]
  · obtain ⟨value, hvalue⟩ := Option.isSome_iff_exists.mp (h.variable_set name hname)
    have hpassword : draft.password = none := by
      by_contra hgiven
      exact h.one_source ⟨Option.ne_none_iff_isSome.mp hgiven, by rw [Option.mem_def.mp hname]; rfl⟩
    rw [reading, hpassword, Option.mem_def.mp hname, Option.none_or, Option.bind_some, hvalue,
      Option.getD_some]
  · rw [reading, hpassword, hvariable, Option.none_or, Option.bind_none, Option.getD_none]

end LoginDraft

namespace Config

variable {env : Environment} {context : String}

/-- A scheme is checked for being known. -/
lemma checkScheme_eq_verdict (draft : LoginDraft) :
    checkScheme draft = verdict draft.schemeMistakes draft.family := by
  unfold checkScheme LoginDraft.schemeMistakes LoginDraft.family
  split
  · next h => simp [h, unknownName, verdict]
  · next h => simp [h, unknownName, verdict, LoginDraft.schemes]
  · next h => simp [h, unknownName, verdict, LoginDraft.schemes]
  · next h => simp [h, unknownName, verdict, LoginDraft.schemes]
  · next other hbasic hdigest hntlm h =>
    have hother : other ∉ LoginDraft.schemes := by
      simp only [LoginDraft.schemes, List.mem_cons, List.not_mem_nil, or_false, not_or]
      exact ⟨hbasic, hdigest, hntlm⟩
    rw [h, unknownName_of_not_mem hother, verdict]

/-- A password is checked for where it is taken from. -/
lemma checkPassword_eq_verdict (draft : LoginDraft) : checkPassword env context draft =
    verdict (draft.passwordMistakes env context) (draft.reading env).password := by
  unfold checkPassword LoginDraft.passwordMistakes LoginDraft.reading
  cases draft.password with
  | none =>
    cases draft.passwordVariable with
    | none => rfl
    | some name => cases hget : env.get? name <;> simp [hget, verdict]
  | some password => cases draft.passwordVariable <;> rfl

/-- A login is checked for its user name, then for its password. -/
lemma checkLogin_eq_verdict (draft : LoginDraft) : checkLogin env context draft =
    verdict (draft.usernameMistakes context ++ draft.passwordMistakes env context)
      (draft.reading env) := by
  unfold checkLogin LoginDraft.usernameMistakes
  rw [checkPassword_eq_verdict]
  cases husername : draft.username with
  | none => rfl
  | some username =>
    simp only [bind_pure_comp, map_verdict, List.nil_append, LoginDraft.reading, husername,
      Option.getD_some]

/-- A login that is used as a credential is checked for its scheme first. -/
lemma checkCredential_eq_verdict (draft : LoginDraft) : checkCredential env context draft =
    verdict (draft.mistakes env context) ((draft.reading env).credential draft.family) := by
  unfold checkCredential
  rw [checkScheme_eq_verdict, checkLogin_eq_verdict]
  refine verdict_bind ?_
  rw [bind_pure_comp, map_verdict]

end Config

/-! ### Logging -/

namespace LoggingDraft

/-- The formats that logging may name. -/
def formats : List String :=
  ["pretty", "json"]

/-- The mistake in how to log, if there is one. -/
def mistakes (draft : LoggingDraft) : List ConfigError :=
  unknownName formats .unknownLogFormat draft.format

/-- How to log if there is no mistake. -/
def reading (draft : LoggingDraft) : Logging :=
  ⟨draft.level.getD "info", if draft.format = some "json" then .json else .pretty⟩

end LoggingDraft

/-- Logging is checked for its format. -/
lemma Config.checkLogging_eq_verdict (draft : LoggingDraft) :
    checkLogging draft = verdict draft.mistakes draft.reading := by
  unfold checkLogging LoggingDraft.mistakes LoggingDraft.reading
  split
  · next h =>
    rw [h]
    rfl
  · next h =>
    rw [h]
    rfl
  · next h =>
    rw [h]
    rfl
  · next other hpretty hjson h =>
    have hother : other ∉ LoggingDraft.formats := by
      simp only [LoggingDraft.formats, List.mem_cons, List.not_mem_nil, or_false, not_or]
      exact ⟨hpretty, hjson⟩
    rw [h, unknownName_of_not_mem hother, verdict]
    rfl

/-! ### The fallback -/

/-- What a pattern comes to. -/
structure PatternDraft.ReadAs (env : Environment) (draft : PatternDraft)
    (item : String × Credential) : Prop where
  pattern_eq : item.1 = draft.pattern
  credential_eq : ∃ login, draft.login.ReadAs env login ∧
    item.2 = login.credential draft.login.family

/-- What a pattern comes to if there is no mistake in it. -/
def PatternDraft.reading (env : Environment) (draft : PatternDraft) : String × Credential :=
  (draft.pattern, (draft.login.reading env).credential draft.login.family)

namespace FallbackDraft

/-- The kinds that a fallback may name. -/
def kinds : List String :=
  ["none", "default", "patterns"]

/-- The mistakes in a fallback.  Only the logins that its kind makes use of are looked at. -/
def mistakes (env : Environment) (draft : FallbackDraft) : List ConfigError :=
  match draft.kind with
  | some "default" => draft.login.mistakes env "default fallback"
  | some "patterns" => draft.patterns.flatMap fun item => item.login.mistakes env item.pattern
  | kind => unknownName kinds .unknownFallback kind

/-- What a fallback comes to. -/
inductive ReadAs (env : Environment) (draft : FallbackDraft) : FallbackPolicy → Prop
  | none (kind_eq : draft.kind = Option.none ∨ draft.kind = some "none") : ReadAs env draft .none
  | always (kind_eq : draft.kind = some "default") {login : Login}
      (login_read : draft.login.ReadAs env login) :
      ReadAs env draft (.always (login.credential draft.login.family))
  | patterns (kind_eq : draft.kind = some "patterns") {items : List (String × Credential)}
      (items_read : List.Forall₂ (PatternDraft.ReadAs env) draft.patterns items) :
      ReadAs env draft (.patterns items)

/-- What a fallback comes to if there is no mistake in it. -/
def reading (env : Environment) (draft : FallbackDraft) : FallbackPolicy :=
  match draft.kind with
  | some "default" => .always ((draft.login.reading env).credential draft.login.family)
  | some "patterns" => .patterns (draft.patterns.map (PatternDraft.reading env))
  | _ => .none

/-- A fallback of any other kind is looked at for its kind alone. -/
lemma mistakes_of_ne {env : Environment} {draft : FallbackDraft}
    (hdefault : draft.kind ≠ some "default") (hpatterns : draft.kind ≠ some "patterns") :
    draft.mistakes env = unknownName kinds .unknownFallback draft.kind := by
  unfold mistakes
  split
  · next h => exact absurd h hdefault
  · next h => exact absurd h hpatterns
  · rfl

/-- There is no mistake in a fallback of a known kind if the logins are in order that it makes use
of. -/
lemma mistakes_eq_nil_iff {env : Environment} {draft : FallbackDraft} :
    draft.mistakes env = [] ↔ (∀ name ∈ draft.kind, name ∈ kinds) ∧
      (draft.kind = some "default" → draft.login.Valid env) ∧
      (draft.kind = some "patterns" → ∀ item ∈ draft.patterns, item.login.Valid env) := by
  by_cases hdefault : draft.kind = some "default"
  · rw [mistakes, hdefault]
    simp [LoginDraft.mistakes_eq_nil_iff, kinds]
  · by_cases hpatterns : draft.kind = some "patterns"
    · rw [mistakes, hpatterns]
      simp [LoginDraft.mistakes_eq_nil_iff, kinds]
    · rw [mistakes_of_ne hdefault hpatterns, unknownName_eq_nil_iff]
      exact ⟨fun h => ⟨h, (absurd · hdefault), (absurd · hpatterns)⟩, And.left⟩

/-- A fallback comes to its reading if the logins are in order that it makes use of. -/
lemma readAs_reading {env : Environment} {draft : FallbackDraft} (h : draft.mistakes env = []) :
    draft.ReadAs env (draft.reading env) := by
  obtain ⟨hkind, hlogin, hpatterns⟩ := mistakes_eq_nil_iff.mp h
  unfold reading
  split
  · next hdefault => exact .always hdefault (hlogin hdefault).readAs
  · next hkind =>
    refine .patterns hkind ?_
    rw [List.forall₂_map_right_iff, List.forall₂_same]
    exact fun item hmem => ⟨rfl, item.login.reading env, (hpatterns hkind item hmem).readAs, rfl⟩
  · next hdefault hpatterns =>
    refine .none ?_
    cases hgiven : draft.kind with
    | none => exact Or.inl rfl
    | some name =>
      have hname := hkind name hgiven
      simp only [kinds, List.mem_cons, List.not_mem_nil, or_false] at hname
      rcases hname with rfl | rfl | rfl
      · exact Or.inr rfl
      · exact absurd hgiven hdefault
      · exact absurd hgiven hpatterns

end FallbackDraft

/-- A fallback is checked for its kind, and for the logins that the kind makes use of. -/
lemma Config.checkFallback_eq_verdict (env : Environment) (draft : FallbackDraft) :
    checkFallback env draft = verdict (draft.mistakes env) (draft.reading env) := by
  unfold checkFallback
  split
  · next h =>
    rw [FallbackDraft.mistakes, FallbackDraft.reading, h]
    rfl
  · next h =>
    rw [FallbackDraft.mistakes, FallbackDraft.reading, h]
    rfl
  · next h =>
    rw [FallbackDraft.mistakes, FallbackDraft.reading, h, checkCredential_eq_verdict]
    exact map_verdict _ _ _
  · next h =>
    have hitem : ∀ item ∈ draft.patterns, (do
        return (item.pattern, ← checkCredential env item.pattern item.login)) =
          verdict (item.login.mistakes env item.pattern) (PatternDraft.reading env item) := by
      intro item _
      rw [checkCredential_eq_verdict, bind_pure_comp, map_verdict]
      rfl
    rw [FallbackDraft.mistakes, FallbackDraft.reading, h, mapM_eq_verdict hitem]
    exact map_verdict _ _ _
  · next other hnone hdefault hpatterns h =>
    have hother : other ∉ FallbackDraft.kinds := by
      simp only [FallbackDraft.kinds, List.mem_cons, List.not_mem_nil, or_false, not_or]
      exact ⟨hnone, hdefault, hpatterns⟩
    have hunknown : draft.mistakes env = [.invalid (.unknownFallback other)] := by
      rw [FallbackDraft.mistakes_of_ne (by simpa [h] using hdefault) (by simpa [h] using hpatterns),
        h, unknownName_of_not_mem hother]
    rw [hunknown, verdict]

/-! ### Credentials -/

namespace CredentialDraft

/-- The mistakes in what is said about a target; of a disabled one only the scheme is looked at. -/
def mistakes (env : Environment) (draft : CredentialDraft) : List ConfigError :=
  if draft.disabled then draft.login.schemeMistakes else draft.login.mistakes env draft.target

/-- What is said about a target. -/
structure ReadAs (env : Environment) (draft : CredentialDraft) (item : ScopedLogin) : Prop where
  target_eq : item.target = draft.target
  family_eq : item.family = draft.login.family
  login_eq_none_iff : item.login = none ↔ draft.disabled = true
  login_read : ∀ login ∈ item.login, draft.login.ReadAs env login

/-- What is said about a target if there is no mistake in it. -/
def reading (env : Environment) (draft : CredentialDraft) : ScopedLogin :=
  ⟨draft.target, draft.login.family,
    if draft.disabled then none else some (draft.login.reading env)⟩

/-- There is no mistake in what is said about a target if its login is in order or, of a disabled
one, the scheme is known. -/
lemma mistakes_eq_nil_iff {env : Environment} {draft : CredentialDraft} :
    draft.mistakes env = [] ↔ (draft.disabled = false → draft.login.Valid env) ∧
      (draft.disabled = true → ∀ name ∈ draft.login.scheme, name ∈ LoginDraft.schemes) := by
  unfold mistakes
  cases draft.disabled with
  | true => simp [LoginDraft.schemeMistakes, unknownName_eq_nil_iff]
  | false => simp [LoginDraft.mistakes_eq_nil_iff]

/-- What is said about a target comes to its reading if there is no mistake in it. -/
lemma readAs_reading {env : Environment} {draft : CredentialDraft} (h : draft.mistakes env = []) :
    draft.ReadAs env (draft.reading env) := by
  obtain ⟨hvalid, -⟩ := mistakes_eq_nil_iff.mp h
  refine ⟨rfl, rfl, ?_, ?_⟩
  · simp [reading]
  · intro login hlogin
    unfold reading at hlogin
    cases hdisabled : draft.disabled with
    | true => simp [hdisabled] at hlogin
    | false =>
      obtain rfl : draft.login.reading env = login := by simpa [hdisabled] using hlogin
      exact (hvalid hdisabled).readAs

end CredentialDraft

/-- A target is checked for its scheme and, unless it is disabled, for its login. -/
lemma Config.checkScopedLogin_eq_verdict (env : Environment) (draft : CredentialDraft) :
    checkScopedLogin env draft = verdict (draft.mistakes env) (draft.reading env) := by
  unfold checkScopedLogin CredentialDraft.mistakes CredentialDraft.reading
  rw [checkScheme_eq_verdict, checkLogin_eq_verdict]
  cases draft.disabled with
  | true => exact map_verdict _ _ _
  | false =>
    refine verdict_bind ?_
    exact map_verdict _ _ _

/-! ### Whole drafts -/

namespace ConfigDraft

/-- The mistakes in a draft, in the order in which they are looked for. -/
def mistakes (env : Environment) (draft : ConfigDraft) : List ConfigError :=
  draft.logging.mistakes ++
    (draft.fallback.mistakes env ++ draft.credentials.flatMap (CredentialDraft.mistakes env))

/-- A draft is in order: the logging and the fallback are of a kind that is known, the logins in use
are in order, and those of disabled targets have a scheme that is known. -/
structure Valid (env : Environment) (draft : ConfigDraft) : Prop where
  format_known : ∀ name ∈ draft.logging.format, name ∈ LoggingDraft.formats
  kind_known : ∀ name ∈ draft.fallback.kind, name ∈ FallbackDraft.kinds
  login_valid : ∀ place login, draft.usedLogin? place = some login → login.Valid env
  disabled_known : ∀ item ∈ draft.credentials, item.disabled = true →
    ∀ name ∈ item.login.scheme, name ∈ LoginDraft.schemes

/-- What a draft comes to, position by position. -/
structure ReadAs (env : Environment) (draft : ConfigDraft) (config : Config) : Prop where
  level_eq : config.logging.level = draft.logging.level.getD "info"
  format_eq : config.logging.format = .json ↔ draft.logging.format = some "json"
  credentials_read : List.Forall₂ (CredentialDraft.ReadAs env) draft.credentials config.credentials
  fallback_read : draft.fallback.ReadAs env config.fallback

/-- What a draft comes to if there is no mistake in it. -/
def reading (env : Environment) (draft : ConfigDraft) : Config :=
  ⟨draft.logging.reading, draft.credentials.map (CredentialDraft.reading env),
    draft.fallback.reading env⟩

variable {env : Environment} {draft : ConfigDraft}

/-- A draft is in order if there is no mistake in it. -/
lemma mistakes_eq_nil_iff : draft.mistakes env = [] ↔ draft.Valid env := by
  rw [mistakes, List.append_eq_nil_iff, List.append_eq_nil_iff, List.flatMap_eq_nil_iff,
    LoggingDraft.mistakes, unknownName_eq_nil_iff, FallbackDraft.mistakes_eq_nil_iff]
  simp only [CredentialDraft.mistakes_eq_nil_iff]
  constructor
  · rintro ⟨hformat, ⟨hkind, hdefault, hpatterns⟩, hcredentials⟩
    refine ⟨hformat, hkind, fun place login hused => ?_,
      fun item hmem => (hcredentials item hmem).2⟩
    cases place with
    | credential index =>
      obtain ⟨item, hitem, hdisabled, rfl⟩ := usedLogin?_credential_eq_some_iff.mp hused
      exact (hcredentials item (List.mem_of_getElem? hitem)).1 hdisabled
    | fallback =>
      obtain ⟨hkind, rfl⟩ := usedLogin?_fallback_eq_some_iff.mp hused
      exact hdefault hkind
    | pattern index =>
      obtain ⟨item, hitem, hkind, rfl⟩ := usedLogin?_pattern_eq_some_iff.mp hused
      exact hpatterns hkind item (List.mem_of_getElem? hitem)
  · intro h
    refine ⟨h.format_known, ⟨h.kind_known, fun hkind => ?_, fun hkind item hmem => ?_⟩,
      fun item hmem => ⟨fun hdisabled => ?_, h.disabled_known item hmem⟩⟩
    · exact h.login_valid .fallback _ (usedLogin?_fallback_eq_some_iff.mpr ⟨hkind, rfl⟩)
    · obtain ⟨place, hused⟩ := exists_usedLogin?_of_mem_patterns hmem hkind
      exact h.login_valid place _ hused
    · obtain ⟨place, hused⟩ := exists_usedLogin?_of_mem_credentials hmem hdisabled
      exact h.login_valid place _ hused

/-- A draft comes to its reading if there is no mistake in it. -/
lemma readAs_reading (h : draft.mistakes env = []) : draft.ReadAs env (draft.reading env) := by
  rw [mistakes, List.append_eq_nil_iff, List.append_eq_nil_iff, List.flatMap_eq_nil_iff] at h
  obtain ⟨-, hfallback, hcredentials⟩ := h
  refine ⟨rfl, ?_, ?_, FallbackDraft.readAs_reading hfallback⟩
  · simp only [reading, LoggingDraft.reading]
    split_ifs with hjson
    · exact iff_of_true rfl hjson
    · exact iff_of_false (fun h => nomatch h) hjson
  · rw [reading, List.forall₂_map_right_iff, List.forall₂_same]
    exact fun item hmem => CredentialDraft.readAs_reading (hcredentials item hmem)

end ConfigDraft

namespace Config

/-- The check of a draft gives what the draft comes to, or the first mistake in it. -/
lemma check_eq_verdict (env : Environment) (draft : ConfigDraft) :
    check env draft = verdict (draft.mistakes env) (draft.reading env) := by
  unfold check
  rw [checkLogging_eq_verdict, checkFallback_eq_verdict,
    mapM_eq_verdict fun item _ => checkScopedLogin_eq_verdict env item]
  refine verdict_bind (verdict_bind ?_)
  exact map_verdict _ _ _

/-- A text that holds a draft gives a configuration exactly if the draft is in order.  The
configuration is then what the draft comes to, position by position, and otherwise the error is the
first mistake in the draft: in the logging, in the fallback, in the credentials one after the other,
and in each login first in the scheme, then in the user name, then in the password. -/
theorem parse_eq_ok_iff_valid {text : String} {draft : ConfigDraft}
    (h : ConfigDraft.ofText? text = some draft) (env : Environment) :
    ((∃ config, parse env text = .ok config) ↔ draft.Valid env) ∧
      (∀ config, parse env text = .ok config → draft.ReadAs env config) ∧
      ∀ error, parse env text = .error error ↔ (draft.mistakes env).head? = some error := by
  rw [parse_of_ofText? h, check_eq_verdict]
  refine ⟨?_, fun config hconfig => ?_, fun error => verdict_eq_error_iff⟩
  · rw [← ConfigDraft.mistakes_eq_nil_iff]
    simp [verdict_eq_ok_iff]
  · obtain ⟨hmistakes, rfl⟩ := verdict_eq_ok_iff.mp hconfig
    exact ConfigDraft.readAs_reading hmistakes

/-- A text with a target and a login without a password. -/
def brief : String :=
  "[[credentials]]\ntarget='a'\nusername='u'"

/-- The draft that it holds. -/
def briefDraft : ConfigDraft where
  logging := ⟨none, none⟩
  credentials := [⟨"a", false, ⟨none, some "u", none, none, none, none⟩⟩]
  fallback := ⟨none, ⟨none, none, none, none, none, none⟩, []⟩

/-- A text with a mistake in the fallback and two in a target. -/
def hasty : String :=
  "fallback.kind='default'\n[[credentials]]\ntarget='a'\nscheme='ntml'"

/-- The draft that it holds. -/
def hastyDraft : ConfigDraft where
  logging := ⟨none, none⟩
  credentials := [⟨"a", false, ⟨some "ntml", none, none, none, none, none⟩⟩]
  fallback := ⟨some "default", ⟨none, none, none, none, none, none⟩, []⟩

/-- The brief text gives a configuration; of the three mistakes in the hasty one that in the
fallback is reported. -/
theorem parse_eq_ok_iff_valid_brief_hasty :
    (ConfigDraft.ofText? brief = some briefDraft ∧
      ∃ config, parse ⟨[]⟩ brief = .ok config ∧ briefDraft.ReadAs ⟨[]⟩ config) ∧
    ConfigDraft.ofText? hasty = some hastyDraft ∧
      ¬ hastyDraft.Valid ⟨[]⟩ ∧ (hastyDraft.mistakes ⟨[]⟩).length = 3 ∧
      parse ⟨[]⟩ hasty = .error (.invalid (.missingUsername "default fallback")) := by
  have hbrief : ConfigDraft.ofText? brief = some briefDraft := by decide +kernel
  have hhasty : ConfigDraft.ofText? hasty = some hastyDraft := by decide +kernel
  obtain ⟨hok, hread, -⟩ := parse_eq_ok_iff_valid hbrief ⟨[]⟩
  obtain ⟨hinvalid, -, herror⟩ := parse_eq_ok_iff_valid hhasty ⟨[]⟩
  obtain ⟨config, hconfig⟩ := hok.mpr (ConfigDraft.mistakes_eq_nil_iff.mp (by decide))
  have hreport := (herror (.invalid (.missingUsername "default fallback"))).mpr (by decide)
  refine ⟨⟨hbrief, config, hconfig, hread config hconfig⟩, hhasty, fun hvalid => ?_, by decide,
    hreport⟩
  obtain ⟨other, hother⟩ := hinvalid.mpr hvalid
  rw [hreport] at hother
  cases hother

end Config

end ScopedAuth
