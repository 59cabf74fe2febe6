import ScopedAuth.Config.Basic
import ScopedAuth.Proofs.Outcome

/-!
# What a configuration takes from the environment

A login is in use if it belongs to a target that is not disabled, to a fallback that always answers,
or to a pattern of a fallback that has patterns.  The environment matters only for the variables
that logins in use name for their passwords, and a variable that is set may be replaced by its value
(`Config.parse_eq_of_agree`).

Both come from one comparison.  Two drafts, each in an environment of its own, are alike if they
differ in nothing but in where the logins in use take the same passwords from
(`ConfigDraft.Alike`), and drafts that are alike are checked alike (`Config.check_eq_of_alike`).
That only a variable in use can get a configuration refused is read off the checks, one after the
other (`Config.exists_takesFrom_of_check`).
-/

namespace ScopedAuth

/-! ### Logins in use -/

/-- Where a login may stand in a draft. -/
inductive LoginPlace where
  | credential (index : Nat)
  | fallback
  | pattern (index : Nat)

namespace ConfigDraft

/-- The login that stands at a place, provided that it is in use. -/
def usedLogin? (draft : ConfigDraft) : LoginPlace → Option LoginDraft
  | .credential index => do
    let item ← draft.credentials[index]?
    if item.disabled then none else some item.login
  | .fallback => if draft.fallback.kind = some "default" then some draft.fallback.login else none
  | .pattern index => do
    let item ← draft.fallback.patterns[index]?
    if draft.fallback.kind = some "patterns" then some item.login else none

/-- A login of a target is in use if the target is not disabled. -/
lemma usedLogin?_credential_eq_some_iff {draft : ConfigDraft} {index : Nat} {login : LoginDraft} :
    draft.usedLogin? (.credential index) = some login ↔
      ∃ item, draft.credentials[index]? = some item ∧ item.disabled = false ∧
        item.login = login := by
  simp [usedLogin?, Option.bind_eq_some_iff]

/-- The login of the fallback is in use if the fallback always answers. -/
lemma usedLogin?_fallback_eq_some_iff {draft : ConfigDraft} {login : LoginDraft} :
    draft.usedLogin? .fallback = some login ↔
      draft.fallback.kind = some "default" ∧ draft.fallback.login = login := by
  simp [usedLogin?]

/-- A login of a pattern is in use if the fallback is one with patterns. -/
lemma usedLogin?_pattern_eq_some_iff {draft : ConfigDraft} {index : Nat} {login : LoginDraft} :
    draft.usedLogin? (.pattern index) = some login ↔
      ∃ item, draft.fallback.patterns[index]? = some item ∧
        draft.fallback.kind = some "patterns" ∧ item.login = login := by
  simp [usedLogin?, Option.bind_eq_some_iff]

/-- The draft with another login at a place. -/
def setLogin (draft : ConfigDraft) (login : LoginDraft) : LoginPlace → ConfigDraft
  | .credential index =>
    { draft with credentials := draft.credentials.modify index ({ · with login }) }
  | .fallback => { draft with fallback := { draft.fallback with login } }
  | .pattern index =>
    { draft with
      fallback := { draft.fallback with
        patterns := draft.fallback.patterns.modify index ({ · with login }) } }

/-- Two environments agree on the variables that the logins in use name. -/
def Agree (draft : ConfigDraft) (one other : Environment) : Prop :=
  ∀ place login name, draft.usedLogin? place = some login → login.passwordVariable = some name →
    one.get? name = other.get? name

/-- The draft that a text holds, if it holds one. -/
def ofText? (text : String) : Option ConfigDraft :=
  Toml.read? text >>= Draft.config?

end ConfigDraft

/-- A login gives no password and names a variable for it. -/
structure LoginDraft.TakesFrom (login : LoginDraft) (name : String) : Prop where
  password_eq : login.password = none
  passwordVariable_eq : login.passwordVariable = some name

/-- The login with its password written out. -/
def LoginDraft.inline (login : LoginDraft) (password : String) : LoginDraft :=
  { login with password := some password, passwordVariable := none }

/-! ### Drafts that come to the same -/

/-- Two logins, each in its environment, differ in nothing but in where they take the same password
from. -/
structure LoginDraft.Alike (env env' : Environment) (one other : LoginDraft) : Prop where
  scheme_eq : one.scheme = other.scheme
  username_eq : one.username = other.username
  password_eq : ∀ context,
    Config.checkPassword env context one = Config.checkPassword env' context other
  workstation_eq : one.workstation = other.workstation
  domain_eq : one.domain = other.domain

/-- Two targets have logins that come to the same; those of disabled targets need only name the same
scheme. -/
structure CredentialDraft.Alike (env env' : Environment) (one other : CredentialDraft) : Prop where
  target_eq : one.target = other.target
  disabled_eq : one.disabled = other.disabled
  scheme_eq : one.login.scheme = other.login.scheme
  login_alike : one.disabled = false → one.login.Alike env env' other.login

/-- Two patterns are the same and have logins that come to the same. -/
structure PatternDraft.Alike (env env' : Environment) (one other : PatternDraft) : Prop where
  pattern_eq : one.pattern = other.pattern
  login_alike : one.login.Alike env env' other.login

/-- Two drafts come to the same wherever a login is in use. -/
structure ConfigDraft.Alike (env env' : Environment) (one other : ConfigDraft) : Prop where
  logging_eq : one.logging = other.logging
  kind_eq : one.fallback.kind = other.fallback.kind
  login_alike : one.fallback.kind = some "default" →
    one.fallback.login.Alike env env' other.fallback.login
  patterns_alike : one.fallback.kind = some "patterns" →
    List.Forall₂ (PatternDraft.Alike env env') one.fallback.patterns other.fallback.patterns
  credentials_alike :
    List.Forall₂ (CredentialDraft.Alike env env') one.credentials other.credentials

namespace Config

section Alike

variable {env env' : Environment}

/-- Logins that are alike come to the same. -/
lemma checkLogin_eq_of_alike {one other : LoginDraft} (h : one.Alike env env' other)
    (context : String) : checkLogin env context one = checkLogin env' context other := by
  rw [checkLogin, checkLogin, h.username_eq, h.password_eq, h.workstation_eq, h.domain_eq]

/-- Logins that are alike give the same credential. -/
lemma checkCredential_eq_of_alike {one other : LoginDraft} (h : one.Alike env env' other)
    (context : String) : checkCredential env context one = checkCredential env' context other := by
  rw [checkCredential, checkCredential, checkScheme, checkScheme, h.scheme_eq,
    checkLogin_eq_of_alike h]

/-- Targets whose logins are alike come to the same. -/
lemma checkScopedLogin_eq_of_alike {one other : CredentialDraft} (h : one.Alike env env' other) :
    checkScopedLogin env one = checkScopedLogin env' other := by
  rw [checkScopedLogin, checkScopedLogin, checkScheme, checkScheme, h.scheme_eq, h.target_eq,
    ← h.disabled_eq]
  cases hdisabled : one.disabled with
  | true => rfl
  | false => rw [checkLogin_eq_of_alike (h.login_alike hdisabled)]

/-- Drafts that are alike come to the same fallback. -/
lemma checkFallback_eq_of_alike {one other : ConfigDraft} (h : one.Alike env env' other) :
    checkFallback env one.fallback = checkFallback env' other.fallback := by
  unfold checkFallback
  rw [← h.kind_eq]
  split
  · rfl
  · rfl
  · next hkind => rw [checkCredential_eq_of_alike (h.login_alike hkind)]
  · next hkind =>
    refine congrArg _ (mapM_eq_of_forall₂ ((h.patterns_alike hkind).imp fun p q hpq => ?_))
    rw [hpq.pattern_eq, checkCredential_eq_of_alike hpq.login_alike]
  · rfl

/-- Drafts that are alike come to the same configuration, or are refused for the same reason. -/
lemma check_eq_of_alike {one other : ConfigDraft} (h : one.Alike env env' other) :
    check env one = check env' other := by
  have hcredentials : one.credentials.mapM (checkScopedLogin env) =
      other.credentials.mapM (checkScopedLogin env') :=
    mapM_eq_of_forall₂ (h.credentials_alike.imp fun _ _ => checkScopedLogin_eq_of_alike)
  rw [check, check, h.logging_eq, checkFallback_eq_of_alike h, hcredentials]

end Alike

end Config

/-! ### Environments that agree -/

section Agree

variable {env env' : Environment} {draft : ConfigDraft}

/-- A login comes to the same in two environments that agree on the variable that it names. -/
lemma LoginDraft.alike_of_agree {login : LoginDraft}
    (h : ∀ name, login.passwordVariable = some name → env.get? name = env'.get? name) :
    login.Alike env env' login := by
  refine ⟨rfl, rfl, fun context => ?_, rfl, rfl⟩
  unfold Config.checkPassword
  split
  · rfl
  · rfl
  · next name _ hname => rw [h name hname]
  · rfl

/-- A login comes to what it comes to. -/
lemma LoginDraft.Alike.refl (env : Environment) (login : LoginDraft) : login.Alike env env login :=
  LoginDraft.alike_of_agree fun _ _ => rfl

/-- The login of a target that is not disabled is in use. -/
lemma ConfigDraft.exists_usedLogin?_of_mem_credentials {item : CredentialDraft}
    (hmem : item ∈ draft.credentials) (h : item.disabled = false) :
    ∃ place, draft.usedLogin? place = some item.login := by
  obtain ⟨index, hindex⟩ := List.mem_iff_getElem?.mp hmem
  exact ⟨.credential index, usedLogin?_credential_eq_some_iff.mpr ⟨item, hindex, h, rfl⟩⟩

/-- The login of a pattern is in use if the fallback is one with patterns. -/
lemma ConfigDraft.exists_usedLogin?_of_mem_patterns {item : PatternDraft}
    (hmem : item ∈ draft.fallback.patterns) (h : draft.fallback.kind = some "patterns") :
    ∃ place, draft.usedLogin? place = some item.login := by
  obtain ⟨index, hindex⟩ := List.mem_iff_getElem?.mp hmem
  exact ⟨.pattern index, usedLogin?_pattern_eq_some_iff.mpr ⟨item, hindex, h, rfl⟩⟩

/-- A draft is alike in environments that agree on the variables in use. -/
lemma ConfigDraft.Agree.alike (h : draft.Agree env env') : draft.Alike env env' draft := by
  have hlogin : ∀ {place login}, draft.usedLogin? place = some login →
      login.Alike env env' login :=
    fun hused => LoginDraft.alike_of_agree fun name => h _ _ name hused
  refine ⟨rfl, rfl, fun hkind => hlogin (usedLogin?_fallback_eq_some_iff.mpr ⟨hkind, rfl⟩),
    fun hkind => List.forall₂_same.mpr fun item hmem => ?_,
    List.forall₂_same.mpr fun item hmem => ?_⟩
  · obtain ⟨place, hused⟩ := exists_usedLogin?_of_mem_patterns hmem hkind
    exact ⟨rfl, hlogin hused⟩
  · refine ⟨rfl, rfl, rfl, fun hdisabled => ?_⟩
    obtain ⟨place, hused⟩ := exists_usedLogin?_of_mem_credentials hmem hdisabled
    exact hlogin hused

end Agree

/-! ### Passwords written out -/

section Inline

variable {env : Environment} {draft : ConfigDraft} {login : LoginDraft} {name value : String}

/-- To write out the password that a variable holds does not change what a login comes to. -/
lemma LoginDraft.TakesFrom.inline_alike (h : login.TakesFrom name)
    (hvalue : env.get? name = some value) : (login.inline value).Alike env env login := by
  refine ⟨rfl, rfl, fun context => ?_, rfl, rfl⟩
  rw [Config.checkPassword, Config.checkPassword, h.password_eq, h.passwordVariable_eq]
  simp only [inline, hvalue]

/-- To change a member changes a list no more than the member. -/
lemma forall₂_modify {α : Type} {R : α → α → Prop} (hrefl : ∀ a, R a a) {f : α → α} {l : List α}
    {index : Nat} (h : ∀ a, l[index]? = some a → R (f a) a) :
    List.Forall₂ R (l.modify index f) l := by
  induction l generalizing index with
  | nil => simp
  | cons a rest ih =>
    cases index with
    | zero => simpa [hrefl] using h a
    | succ index => simpa [hrefl] using ih h

/-- A draft with the login at a place replaced by one that comes to the same is alike. -/
lemma ConfigDraft.setLogin_alike {place : LoginPlace} {other : LoginDraft}
    (hused : draft.usedLogin? place = some login) (h : other.Alike env env login) :
    (draft.setLogin other place).Alike env env draft := by
  have hself : draft.Alike env env draft := Agree.alike fun _ _ _ _ _ => rfl
  cases place with
  | credential index =>
    refine { hself with credentials_alike := ?_ }
    refine forall₂_modify (fun item => ⟨rfl, rfl, rfl, fun _ => .refl env item.login⟩)
      fun item hitem => ?_
    obtain ⟨found, hfound, -, rfl⟩ := usedLogin?_credential_eq_some_iff.mp hused
    obtain rfl : found = item := Option.some.inj (hfound.symm.trans hitem)
    exact ⟨rfl, rfl, h.scheme_eq, fun _ => h⟩
  | fallback =>
    obtain ⟨-, rfl⟩ := usedLogin?_fallback_eq_some_iff.mp hused
    exact { hself with login_alike := fun _ => h }
  | pattern index =>
    refine { hself with patterns_alike := fun _ => ?_ }
    refine forall₂_modify (fun item => ⟨rfl, .refl env item.login⟩) fun item hitem => ?_
    obtain ⟨found, hfound, -, rfl⟩ := usedLogin?_pattern_eq_some_iff.mp hused
    obtain rfl : found = item := Option.some.inj (hfound.symm.trans hitem)
    exact ⟨rfl, h⟩

end Inline

/-! ### Variables that are not set -/

namespace Config

section Missing

variable {env : Environment} {context name : String}

/-- No scheme is refused for a variable. -/
lemma checkScheme_ne_missingVariable (login : LoginDraft) :
    checkScheme login ≠ .error (.missingVariable name) := by
  intro h
  unfold checkScheme at h
  split at h <;> cases h

/-- No logging is refused for a variable. -/
lemma checkLogging_ne_missingVariable (draft : LoggingDraft) :
    checkLogging draft ≠ .error (.missingVariable name) := by
  intro h
  unfold checkLogging at h
  split at h <;> cases h

/-- A password that is refused for a variable is to be taken from it. -/
lemma takesFrom_of_checkPassword {login : LoginDraft}
    (h : checkPassword env context login = .error (.missingVariable name)) :
    login.TakesFrom name ∧ env.get? name = none := by
  unfold checkPassword at h
  split at h
  · cases h
  · cases h
  · next variable_ hpassword hvariable =>
    split at h
    · cases h
    · next hget =>
      cases h
      exact ⟨⟨hpassword, hvariable⟩, hget⟩
  · cases h

/-- A login that is refused for a variable takes its password from it. -/
lemma takesFrom_of_checkLogin {login : LoginDraft}
    (h : checkLogin env context login = .error (.missingVariable name)) :
    login.TakesFrom name ∧ env.get? name = none := by
  unfold checkLogin at h
  split at h
  · cases h
  · rcases bind_eq_error_iff.mp h with hpassword | ⟨password, -, hrest⟩
    · exact takesFrom_of_checkPassword hpassword
    · cases hrest

/-- A credential is refused for a variable only if its login is. -/
lemma takesFrom_of_checkCredential {login : LoginDraft}
    (h : checkCredential env context login = .error (.missingVariable name)) :
    login.TakesFrom name ∧ env.get? name = none := by
  rcases bind_eq_error_iff.mp h with hscheme | ⟨family, -, hrest⟩
  · exact absurd hscheme (checkScheme_ne_missingVariable login)
  · rcases bind_eq_error_iff.mp hrest with hlogin | ⟨checked, -, hrest⟩
    · exact takesFrom_of_checkLogin hlogin
    · cases hrest

/-- A target is refused for a variable only if it is not disabled, and its login is. -/
lemma takesFrom_of_checkScopedLogin {item : CredentialDraft}
    (h : checkScopedLogin env item = .error (.missingVariable name)) :
    item.disabled = false ∧ item.login.TakesFrom name ∧ env.get? name = none := by
  rcases bind_eq_error_iff.mp h with hscheme | ⟨family, -, hrest⟩
  · exact absurd hscheme (checkScheme_ne_missingVariable item.login)
  · cases hdisabled : item.disabled with
    | true =>
      rw [hdisabled] at hrest
      cases hrest
    | false =>
      rw [hdisabled] at hrest
      rcases bind_eq_error_iff.mp hrest with hlogin | ⟨login, -, hrest⟩
      · exact ⟨rfl, takesFrom_of_checkLogin hlogin⟩
      · cases hrest

/-- A fallback is refused for a variable only if a login that it uses is. -/
lemma exists_takesFrom_of_checkFallback {draft : ConfigDraft}
    (h : checkFallback env draft.fallback = .error (.missingVariable name)) :
    ∃ place login, draft.usedLogin? place = some login ∧ login.TakesFrom name ∧
      env.get? name = none := by
  unfold checkFallback at h
  split at h
  · cases h
  · cases h
  · next hkind =>
    have hused := ConfigDraft.usedLogin?_fallback_eq_some_iff.mpr ⟨hkind, rfl⟩
    exact ⟨.fallback, draft.fallback.login, hused,
      takesFrom_of_checkCredential (map_eq_error_iff.mp h)⟩
  · next hkind =>
    obtain ⟨item, hmem, hitem⟩ := exists_of_mapM_eq_error (map_eq_error_iff.mp h)
    obtain ⟨place, hused⟩ := ConfigDraft.exists_usedLogin?_of_mem_patterns hmem hkind
    rcases bind_eq_error_iff.mp hitem with hcredential | ⟨credential, -, hrest⟩
    · exact ⟨place, item.login, hused, takesFrom_of_checkCredential hcredential⟩
    · cases hrest
  · cases h

/-- A configuration is refused for a variable only if a login in use takes its password from it. -/
lemma exists_takesFrom_of_check {draft : ConfigDraft}
    (h : check env draft = .error (.missingVariable name)) :
    ∃ place login, draft.usedLogin? place = some login ∧ login.TakesFrom name ∧
      env.get? name = none := by
  rcases bind_eq_error_iff.mp h with hlogging | ⟨logging, -, hrest⟩
  · exact absurd hlogging (checkLogging_ne_missingVariable draft.logging)
  · rcases bind_eq_error_iff.mp hrest with hfallback | ⟨fallback, -, hrest⟩
    · exact exists_takesFrom_of_checkFallback hfallback
    · rcases bind_eq_error_iff.mp hrest with hcredentials | ⟨credentials, -, hrest⟩
      · obtain ⟨item, hmem, hitem⟩ := exists_of_mapM_eq_error hcredentials
        obtain ⟨hdisabled, hlogin⟩ := takesFrom_of_checkScopedLogin hitem
        obtain ⟨place, hused⟩ := ConfigDraft.exists_usedLogin?_of_mem_credentials hmem hdisabled
        exact ⟨place, item.login, hused, hlogin⟩
      · cases hrest

end Missing

/-- The text that holds a draft is read as the draft is. -/
lemma parse_of_ofText? {text : String} {draft : ConfigDraft}
    (h : ConfigDraft.ofText? text = some draft) (env : Environment) :
    parse env text = check env draft := by
  rw [parse, show Toml.read? text >>= Draft.config? = some draft from h]

/-- A text that holds no draft is refused whatever the environment. -/
lemma parse_of_ofText?_eq_none {text : String} (h : ConfigDraft.ofText? text = none)
    (env : Environment) : parse env text = .error .malformed := by
  rw [parse, show Toml.read? text >>= Draft.config? = none from h]

/-- The environment matters only for the variables that logins in use name: a draft, and a text that
holds one, comes to the same configuration or the same error in environments that agree on these,
and it is refused for a variable only if a login in use takes its password from it.  The value of a
variable may be written out as the password of a login in use, wherever the login stands. -/
theorem parse_eq_of_agree (env : Environment) :
    (∀ (draft : ConfigDraft) (other : Environment), draft.Agree env other →
      check env draft = check other draft) ∧
    (∀ (text : String) (other : Environment),
      (∀ draft, ConfigDraft.ofText? text = some draft → draft.Agree env other) →
      parse env text = parse other text) ∧
    (∀ (text : String) (name : String), parse env text = .error (.missingVariable name) →
      ∃ draft place login, ConfigDraft.ofText? text = some draft ∧
        draft.usedLogin? place = some login ∧ login.TakesFrom name ∧ env.get? name = none) ∧
    (∀ (draft : ConfigDraft) (place : LoginPlace) (login : LoginDraft) (name value : String),
      draft.usedLogin? place = some login → login.TakesFrom name → env.get? name = some value →
      check env (draft.setLogin (login.inline value) place) = check env draft ∧
      ∀ text inlined, ConfigDraft.ofText? text = some draft →
        ConfigDraft.ofText? inlined = some (draft.setLogin (login.inline value) place) →
        parse env inlined = parse env text) := by
  refine ⟨fun draft other h => check_eq_of_alike h.alike, fun text other h => ?_,
    fun text name h => ?_, fun draft place login name value hused hlogin hvalue => ?_⟩
  · cases hdraft : ConfigDraft.ofText? text with
    | none => rw [parse_of_ofText?_eq_none hdraft, parse_of_ofText?_eq_none hdraft]
    | some draft =>
      rw [parse_of_ofText? hdraft, parse_of_ofText? hdraft]
      exact check_eq_of_alike (h draft hdraft).alike
  · cases hdraft : ConfigDraft.ofText? text with
    | none =>
      rw [parse_of_ofText?_eq_none hdraft] at h
      cases h
    | some draft =>
      rw [parse_of_ofText? hdraft] at h
      obtain ⟨place, login, hlogin⟩ := exists_takesFrom_of_check h
      exact ⟨draft, place, login, rfl, hlogin⟩
  · have hcheck : check env (draft.setLogin (login.inline value) place) = check env draft :=
      check_eq_of_alike (ConfigDraft.setLogin_alike hused (hlogin.inline_alike hvalue))
    refine ⟨hcheck, fun text inlined htext hinlined => ?_⟩
    rw [parse_of_ofText? htext, parse_of_ofText? hinlined, hcheck]

/-- A draft that names a variable in every place where a login is not in use, and another in one
where it is. -/
def sparing : ConfigDraft where
  logging := ⟨none, none⟩
  credentials :=
    [⟨"https://one.example/", true, ⟨none, none, none, some "LOST", none, none⟩⟩,
      ⟨"https://two.example/", false, ⟨none, some "alice", none, some "TOKEN", none, none⟩⟩]
  fallback :=
    ⟨none, ⟨none, none, none, some "LOST", none, none⟩,
      [⟨"*", ⟨none, none, none, some "LOST", none, none⟩⟩]⟩

/-- It makes no difference whether the one variable is set, nor whether the other is written out. -/
theorem parse_eq_of_agree_sparing :
    let env : Environment := ⟨[("TOKEN", "secret")]⟩
    let other : Environment := ⟨[("LOST", "found"), ("TOKEN", "secret")]⟩
    let login : LoginDraft := ⟨none, some "alice", none, some "TOKEN", none, none⟩
    env.get? "LOST" ≠ other.get? "LOST" ∧ (check env sparing).isOk = true ∧
      check env sparing = check other sparing ∧
      check env (sparing.setLogin (login.inline "secret") (.credential 1)) = check env sparing := by
  intro env other login
  obtain ⟨hagree, -, -, hinline⟩ := parse_eq_of_agree env
  refine ⟨by decide, by decide, hagree sparing other ?_, ?_⟩
  · intro place found name hused hname
    have hfound : found = login := by
      cases place with
      | credential index =>
        obtain ⟨item, hitem, hdisabled, rfl⟩ :=
          ConfigDraft.usedLogin?_credential_eq_some_iff.mp hused
        rcases List.mem_pair.mp (List.mem_of_getElem? hitem) with rfl | rfl
        · cases hdisabled
        · rfl
      | fallback => exact nomatch (ConfigDraft.usedLogin?_fallback_eq_some_iff.mp hused).1
      | pattern index =>
        obtain ⟨-, -, hkind, -⟩ := ConfigDraft.usedLogin?_pattern_eq_some_iff.mp hused
        cases hkind
    subst hfound
    cases hname
    decide
  · exact (hinline sparing (.credential 1) login "TOKEN" "secret" rfl ⟨rfl, rfl⟩ (by decide)).1

end Config

end ScopedAuth
