import ScopedAuth.Proofs.Config.Environment
import ScopedAuth.Proofs.Config.Refusal

/-!
# What the place of a login changes

A login that is in use says who a target is presented with, wherever it stands.  As the entry of the
target it goes through a store, which has no word for what is unset and keeps it as empty; as the
login of the fallback, or of a pattern of it, it does not.  The credential is the same in all else:
family, user name and password, and with them the header and the principal
(`Config.resolve_eq_iff_of_presents`).
-/

namespace ScopedAuth

/-! ### Logins that are stored -/

/-- Whether the login at a place goes through a store. -/
def LoginPlace.isStored : LoginPlace → Bool
  | .credential _ => true
  | .fallback | .pattern _ => false

namespace Login

/-- The login with empty for what is unset. -/
def filled (login : Login) : Login :=
  { login with
    workstation := some (login.workstation.getD ""), domain := some (login.domain.getD "") }

/-- The credential of a login at a place. -/
def credentialAt (family : Family) (login : Login) : LoginPlace → Credential
  | .credential _ => login.filled.credential family
  | .fallback | .pattern _ => login.credential family

/-- What is stored of a login gives the credential of the filled one. -/
lemma credential?_entry (family : Family) (login : Login) :
    (login.entry family).credential? family = some (login.filled.credential family) := by
  cases family <;> rfl

/-- To fill in what is unset shows in the credential only for NTLM. -/
lemma credential_filled_eq_iff (family : Family) (login : Login) :
    login.filled.credential family = login.credential family ↔
      (family = .ntlm → login.workstation.isSome = true ∧ login.domain.isSome = true) := by
  obtain ⟨username, password, workstation, domain⟩ := login
  cases family with
  | basic => simp [credential, filled, Credential.make]
  | ntlm =>
    cases workstation <;> cases domain <;>
      simp [credential, filled, Credential.make, NtlmCredential.make]

/-- The credentials of a login at two places are the same if both are stored or neither is, or if
the filling does not show. -/
lemma credentialAt_eq_iff (family : Family) (login : Login) (place other : LoginPlace) :
    login.credentialAt family place = login.credentialAt family other ↔
      place.isStored = other.isStored ∨
        (family = .ntlm → login.workstation.isSome = true ∧ login.domain.isSome = true) := by
  rw [← credential_filled_eq_iff]
  cases place <;> cases other <;> simp [credentialAt, LoginPlace.isStored, eq_comm]

end Login

/-! ### What shows of a credential -/

namespace Credential

/-- Two credentials are the same but for what is empty in one and unset in the other. -/
structure SameUser (one other : Credential) : Prop where
  family_eq : one.family = other.family
  username_eq : one.username = other.username
  password_eq : one.password = other.password
  authorization_eq : one.authorization? = other.authorization?
  principal_eq : one.principal? = other.principal?
  workstation_eq : one.workstation?.getD "" = other.workstation?.getD ""
  domain_eq : one.domain?.getD "" = other.domain?.getD ""

/-- A credential is the same as itself. -/
lemma SameUser.refl (credential : Credential) : credential.SameUser credential :=
  ⟨rfl, rfl, rfl, rfl, rfl, rfl, rfl⟩

/-- Two credentials are the same in either order. -/
lemma SameUser.symm {one other : Credential} (h : one.SameUser other) : other.SameUser one :=
  ⟨h.family_eq.symm, h.username_eq.symm, h.password_eq.symm, h.authorization_eq.symm,
    h.principal_eq.symm, h.workstation_eq.symm, h.domain_eq.symm⟩

end Credential

/-- A text that is empty is so in upper case. -/
lemma Unicode.upper_empty : upper "" = "" := by decide

/-- An empty domain qualifies a user name no more than none. -/
lemma NtlmCredential.principal_make_getD (username : String) (password : Secret)
    (workstation other domain : Option String) :
    (make username password workstation (some (domain.getD ""))).principal =
      (make username password other domain).principal := by
  cases domain with
  | none =>
    simp only [make, principal, Option.getD_none, Option.map_some, Option.map_none,
      Unicode.upper_empty, if_true]
  | some domain => rfl

/-- To fill in what is unset changes nothing else in the credential. -/
lemma Login.sameUser_filled (family : Family) (login : Login) :
    (login.filled.credential family).SameUser (login.credential family) := by
  obtain ⟨username, password, workstation, domain⟩ := login
  cases family with
  | basic => exact .refl _
  | ntlm =>
    refine ⟨rfl, rfl, rfl, rfl, ?_, ?_, ?_⟩
    · exact congrArg some (NtlmCredential.principal_make_getD _ _ _ _ domain)
    · cases workstation with
      | none => exact Unicode.upper_empty
      | some workstation => rfl
    · cases domain with
      | none => exact Unicode.upper_empty
      | some domain => rfl

/-- The credentials of a login at two places are the same but for what is unset. -/
lemma Login.sameUser_credentialAt (family : Family) (login : Login) (place other : LoginPlace) :
    (login.credentialAt family place).SameUser (login.credentialAt family other) := by
  have hfilled := login.sameUser_filled family
  match place, other with
  | .credential _, .credential _ => exact .refl _
  | .credential _, .fallback | .credential _, .pattern _ => exact hfilled
  | .fallback, .credential _ | .pattern _, .credential _ => exact hfilled.symm
  | .fallback, .fallback | .fallback, .pattern _ => exact .refl _
  | .pattern _, .fallback | .pattern _, .pattern _ => exact .refl _

/-! ### Logins that are checked -/

/-- A login comes to a family and a login, whatever it is written for. -/
structure LoginDraft.Gives (env : Environment) (draft : LoginDraft) (family : Family)
    (login : Login) : Prop where
  checkScheme_eq : Config.checkScheme draft = .ok family
  checkLogin_eq : ∀ context, Config.checkLogin env context draft = .ok login

namespace Config

section Gives

variable {env : Environment} {context : String} {draft : LoginDraft} {family : Family}
  {login : Login}

/-- What a password is does not depend on what it is written for. -/
lemma checkPassword_eq_ok {password : Password} (h : checkPassword env context draft = .ok password)
    (other : String) : checkPassword env other draft = .ok password := by
  unfold checkPassword at h ⊢
  split at h
  · exact h
  · exact h
  · exact h
  · cases h

/-- What a login comes to does not depend on what it is written for, nor do its fields. -/
lemma checkLogin_eq_ok (h : checkLogin env context draft = .ok login) :
    (∀ other, checkLogin env other draft = .ok login) ∧
      login.workstation = draft.workstation ∧ login.domain = draft.domain := by
  unfold checkLogin at h ⊢
  split at h
  · cases h
  · next username husername =>
    obtain ⟨password, hpassword, h⟩ := bind_eq_ok_iff.mp h
    cases h
    refine ⟨fun other => ?_, rfl, rfl⟩
    rw [checkPassword_eq_ok hpassword other]
    rfl

/-- A credential is that of what the login comes to. -/
lemma exists_gives_of_checkCredential {credential : Credential}
    (h : checkCredential env context draft = .ok credential) :
    ∃ family login, draft.Gives env family login ∧ credential = login.credential family := by
  obtain ⟨family, hfamily, h⟩ := bind_eq_ok_iff.mp h
  obtain ⟨login, hlogin, h⟩ := bind_eq_ok_iff.mp h
  cases h
  exact ⟨family, login, ⟨hfamily, (checkLogin_eq_ok hlogin).1⟩, rfl⟩

/-- A target has the login that its draft comes to, unless it is disabled. -/
lemma checkScopedLogin_eq_ok {item : CredentialDraft} {checked : ScopedLogin}
    (h : checkScopedLogin env item = .ok checked) :
    checked.target = item.target ∧
      (item.disabled = true ∧ checked.login = none ∨
        item.disabled = false ∧ ∃ login, item.login.Gives env checked.family login ∧
          checked.login = some login) := by
  obtain ⟨family, hfamily, h⟩ := bind_eq_ok_iff.mp h
  cases hdisabled : item.disabled with
  | true =>
    rw [hdisabled] at h
    cases h
    exact ⟨rfl, Or.inl ⟨rfl, rfl⟩⟩
  | false =>
    rw [hdisabled] at h
    obtain ⟨login, hlogin, h⟩ := bind_eq_ok_iff.mp h
    cases h
    exact ⟨rfl, Or.inr ⟨rfl, login, ⟨hfamily, (checkLogin_eq_ok hlogin).1⟩, rfl⟩⟩

/-- Only the scheme of NTLM names its family. -/
lemma checkScheme_eq_ok_ntlm_iff : checkScheme draft = .ok .ntlm ↔ draft.scheme = some "ntlm" := by
  unfold checkScheme
  split <;> simp_all

end Gives

end Config

namespace LoginDraft.Gives

variable {env : Environment} {draft : LoginDraft} {family : Family} {login : Login}

/-- A login comes to one thing only. -/
lemma unique {otherFamily : Family} {other : Login} (h : draft.Gives env family login)
    (hother : draft.Gives env otherFamily other) : family = otherFamily ∧ login = other :=
  ⟨Except.ok.inj (h.checkScheme_eq.symm.trans hother.checkScheme_eq),
    Except.ok.inj ((h.checkLogin_eq "").symm.trans (hother.checkLogin_eq ""))⟩

/-- A login is for NTLM if it says so. -/
lemma family_eq_ntlm_iff (h : draft.Gives env family login) :
    family = .ntlm ↔ draft.scheme = some "ntlm" := by
  rw [← Config.checkScheme_eq_ok_ntlm_iff, h.checkScheme_eq, Except.ok.injEq]

/-- The workstation is taken over. -/
lemma workstation_eq (h : draft.Gives env family login) :
    login.workstation = draft.workstation :=
  (Config.checkLogin_eq_ok (h.checkLogin_eq "")).2.1

/-- The domain is taken over. -/
lemma domain_eq (h : draft.Gives env family login) : login.domain = draft.domain :=
  (Config.checkLogin_eq_ok (h.checkLogin_eq "")).2.2

end LoginDraft.Gives

/-! ### Places that decide -/

namespace ConfigDraft

/-- No target that is not disabled has this text. -/
def Unscoped (draft : ConfigDraft) (text : String) : Prop :=
  ∀ item ∈ draft.credentials, item.target = text → item.disabled = true

/-- The login at a place is the one for the text of a target: that of its only entry which is not
disabled, or without one that of the fallback, or of the first of its patterns that matches. -/
def Decides (draft : ConfigDraft) (text : String) : LoginPlace → Prop
  | .credential index => ∀ other item, draft.credentials[other]? = some item →
      (item.target = text ∧ item.disabled = false ↔ other = index)
  | .fallback => draft.Unscoped text
  | .pattern index => draft.Unscoped text ∧
      draft.fallback.patterns.findIdx? (fun item => Glob.accepts item.pattern text) = some index

/-- The draft that holds a login at a place, for a target or a pattern, and nothing else in use. -/
def only (login : LoginDraft) (text pattern : String) : LoginPlace → ConfigDraft
  | .credential _ => ⟨⟨none, none⟩, [⟨text, false, login⟩], ⟨none, login, []⟩⟩
  | .fallback => ⟨⟨none, none⟩, [], ⟨some "default", login, []⟩⟩
  | .pattern _ => ⟨⟨none, none⟩, [], ⟨some "patterns", login, [⟨pattern, login⟩]⟩⟩

end ConfigDraft

namespace Config

section Check

variable {env : Environment} {draft : ConfigDraft} {config : Config} {text : String}

/-- The parts of a configuration come from those of the draft. -/
lemma parts_of_check (h : check env draft = .ok config) :
    List.Forall₂ (fun item checked => checkScopedLogin env item = .ok checked)
      draft.credentials config.credentials ∧
    checkFallback env draft.fallback = .ok config.fallback := by
  obtain ⟨logging, -, h⟩ := bind_eq_ok_iff.mp h
  obtain ⟨fallback, hfallback, h⟩ := bind_eq_ok_iff.mp h
  obtain ⟨credentials, hcredentials, h⟩ := bind_eq_ok_iff.mp h
  cases h
  exact ⟨forall₂_of_mapM_eq_ok hcredentials, hfallback⟩

/-- A login that a configuration has for a text is that of a target which is not disabled. -/
lemma exists_credential_of_login? (h : check env draft = .ok config) {family : Family}
    {login : Login} (hlogin : config.login? family text = some login) :
    ∃ item ∈ draft.credentials, item.target = text ∧ item.disabled = false ∧
      checkScheme item.login = .ok family := by
  obtain ⟨checked, hmem, rfl, htarget, hsome⟩ := exists_of_login?_eq_some hlogin
  obtain ⟨item, hitem, hchecked⟩ := exists_mem_right_of_forall₂ (parts_of_check h).1.flip hmem
  obtain ⟨htext, ⟨-, hnone⟩ | ⟨hdisabled, given, hgiven, -⟩⟩ := checkScopedLogin_eq_ok hchecked
  · rw [hnone] at hsome
    exact nomatch hsome
  · exact ⟨item, hitem, htext.symm.trans htarget, hdisabled, hgiven.checkScheme_eq⟩

/-- A configuration has no login for a text that no target has, or only disabled ones. -/
lemma login?_eq_none_of_unscoped (h : check env draft = .ok config) (htext : draft.Unscoped text)
    (family : Family) : config.login? family text = none := by
  cases hlogin : config.login? family text with
  | none => rfl
  | some login =>
    obtain ⟨item, hitem, htarget, hdisabled, -⟩ := exists_credential_of_login? h hlogin
    rw [htext item hitem htarget] at hdisabled
    exact nomatch hdisabled

/-- The only login for a text is that of its family, and there is none of the other. -/
lemma login?_of_decides_credential (h : check env draft = .ok config)
    (hnodup : (config.credentials.map key).Nodup) {index : Nat} {item : CredentialDraft}
    (hitem : draft.credentials[index]? = some item)
    (hdecides : draft.Decides text (.credential index)) :
    ∃ family login, item.login.Gives env family login ∧
      config.login? family text = some login ∧
      ∀ other, other ≠ family → config.login? other text = none := by
  obtain ⟨htext, hdisabled⟩ := (hdecides index item hitem).mpr rfl
  obtain ⟨checked, hmem, hchecked⟩ :=
    exists_mem_right_of_forall₂ (parts_of_check h).1 (List.mem_of_getElem? hitem)
  obtain ⟨htarget, ⟨htrue, -⟩ | ⟨-, login, hgives, hlogin⟩⟩ := checkScopedLogin_eq_ok hchecked
  · rw [hdisabled] at htrue
    exact nomatch htrue
  · refine ⟨checked.family, login, hgives, ?_, fun other hother => ?_⟩
    · rw [← htext, ← htarget]
      exact login?_eq_some_of_mem hnodup hmem hlogin
    · cases hfound : config.login? other text with
      | none => rfl
      | some found =>
        obtain ⟨another, hanother, htarget, henabled, hscheme⟩ :=
          exists_credential_of_login? h hfound
        obtain ⟨i, hi⟩ := List.mem_iff_getElem?.mp hanother
        obtain rfl := (hdecides i another hi).mp ⟨htarget, henabled⟩
        obtain rfl : another = item := Option.some.inj (hi.symm.trans hitem)
        rw [hgives.checkScheme_eq] at hscheme
        exact absurd (Except.ok.inj hscheme).symm hother

/-- A fallback that always answers does so with the credential of its login. -/
lemma answer_of_fallback (h : checkFallback env draft.fallback = .ok config.fallback)
    (hkind : draft.fallback.kind = some "default") (text : String) :
    ∃ family login, draft.fallback.login.Gives env family login ∧
      config.fallback.answer text = some (login.credential family) := by
  rw [checkFallback, hkind] at h
  obtain ⟨credential, hcredential, hfallback⟩ := map_eq_ok_iff.mp h
  obtain ⟨family, login, hgives, rfl⟩ := exists_gives_of_checkCredential hcredential
  refine ⟨family, login, hgives, ?_⟩
  rw [← hfallback]
  rfl

/-- A fallback with patterns answers with the credential of the first that matches. -/
lemma answer_of_pattern (h : checkFallback env draft.fallback = .ok config.fallback)
    (hkind : draft.fallback.kind = some "patterns") {item : PatternDraft}
    (hitem : draft.fallback.patterns.find? (fun item => Glob.accepts item.pattern text) =
      some item) :
    ∃ family login, item.login.Gives env family login ∧
      config.fallback.answer text = some (login.credential family) := by
  rw [checkFallback, hkind] at h
  obtain ⟨items, hitems, hfallback⟩ := map_eq_ok_iff.mp h
  -- Each item of the policy has the pattern of its draft, so both lists are searched alike.
  have haccepts : ∀ (draft : PatternDraft) (item : String × Credential),
      (do return (draft.pattern, ← checkCredential env draft.pattern draft.login)) = .ok item →
        Glob.accepts item.1 text = Glob.accepts draft.pattern text := by
    intro draft item hstep
    obtain ⟨credential, -, hstep⟩ := bind_eq_ok_iff.mp hstep
    cases hstep
    rfl
  obtain ⟨found, hfind, hstep⟩ := find?_of_forall₂ haccepts (forall₂_of_mapM_eq_ok hitems) hitem
  obtain ⟨credential, hcredential, hstep⟩ := bind_eq_ok_iff.mp hstep
  cases hstep
  obtain ⟨family, login, hgives, rfl⟩ := exists_gives_of_checkCredential hcredential
  refine ⟨family, login, hgives, ?_⟩
  rw [← hfallback, FallbackPolicy.answer, hfind]
  rfl

end Check

/-! ### The credential of a login -/

/-- What is presented to a target is the login for its text, filled in, or what the fallback
answers. -/
lemma resolve_eq_or {config : Config} {auths : Authenticators}
    (h : config.authenticators = .ok auths) (target : Target) :
    auths.resolve target =
      ((config.login? .ntlm target.text).map (·.filled.credential .ntlm)).or
        (((config.login? .basic target.text).map (·.filled.credential .basic)).or
          (config.fallback.answer target.text)) := by
  obtain ⟨hnodup, fallback, hfallback, hbasic, hntlm⟩ := matches_of_authenticators h
  rw [Authenticators.resolve, Store.contains, Authenticator.resolve, Authenticator.resolve,
    get?_of_matches hnodup hntlm, get?_of_matches hnodup hbasic, hbasic.fallback_eq]
  cases config.login? .ntlm target.text with
  | some login => exact Login.credential?_entry .ntlm login
  | none =>
    cases config.login? .basic target.text with
    | some login => exact Login.credential?_entry .basic login
    | none => exact FallbackPolicy.resolve_build hfallback target

/-- Authenticators carry out a draft in which a login stands at the place that decides about a
target. -/
structure Presents (env : Environment) (draft : ConfigDraft) (place : LoginPlace)
    (login : LoginDraft) (target : Target) (auths : Authenticators) : Prop where
  exists_config : ∃ config, check env draft = .ok config ∧ config.authenticators = .ok auths
  usedLogin?_eq : draft.usedLogin? place = some login
  decides : draft.Decides target.text place

/-- The credential presented to a target is that of the login at the place that decides. -/
lemma Presents.exists_resolve_eq {env : Environment} {draft : ConfigDraft} {place : LoginPlace}
    {login : LoginDraft} {target : Target} {auths : Authenticators}
    (h : Presents env draft place login target auths) :
    ∃ family given, login.Gives env family given ∧
      auths.resolve target = some (given.credentialAt family place) := by
  obtain ⟨⟨config, hcheck, hauths⟩, hused, hdecides⟩ := h
  have hfallback := (parts_of_check hcheck).2
  rw [resolve_eq_or hauths]
  cases place with
  | credential index =>
    obtain ⟨item, hitem, -, rfl⟩ := ConfigDraft.usedLogin?_credential_eq_some_iff.mp hused
    obtain ⟨family, given, hgives, hlogin, hother⟩ := login?_of_decides_credential hcheck
      (matches_of_authenticators hauths).1 hitem hdecides
    refine ⟨family, given, hgives, ?_⟩
    cases family with
    | basic => simp [hlogin, hother .ntlm nofun, Login.credentialAt]
    | ntlm => simp [hlogin, Login.credentialAt]
  | fallback =>
    obtain ⟨hkind, rfl⟩ := ConfigDraft.usedLogin?_fallback_eq_some_iff.mp hused
    obtain ⟨family, given, hgives, hanswer⟩ := answer_of_fallback hfallback hkind target.text
    refine ⟨family, given, hgives, ?_⟩
    rw [login?_eq_none_of_unscoped hcheck hdecides, login?_eq_none_of_unscoped hcheck hdecides]
    exact hanswer
  | pattern index =>
    obtain ⟨item, hitem, hkind, rfl⟩ := ConfigDraft.usedLogin?_pattern_eq_some_iff.mp hused
    obtain ⟨hunscoped, hindex⟩ := hdecides
    have hfind : draft.fallback.patterns.find?
        (fun item => Glob.accepts item.pattern target.text) = some item := by
      rw [List.find?_eq_bind_findIdx?_getElem?, hindex]
      exact hitem
    obtain ⟨family, given, hgives, hanswer⟩ := answer_of_pattern hfallback hkind hfind
    refine ⟨family, given, hgives, ?_⟩
    rw [login?_eq_none_of_unscoped hcheck hunscoped, login?_eq_none_of_unscoped hcheck hunscoped]
    exact hanswer

/-! ### Logins in each place -/

/-- A draft whose parts can all be checked can be checked. -/
lemma check_of_parts {env : Environment} {draft : ConfigDraft} {logging : Logging}
    {fallback : FallbackPolicy} {credentials : List ScopedLogin}
    (hlogging : checkLogging draft.logging = .ok logging)
    (hfallback : checkFallback env draft.fallback = .ok fallback)
    (hcredentials : draft.credentials.mapM (checkScopedLogin env) = .ok credentials) :
    check env draft = .ok ⟨logging, credentials, fallback⟩ := by
  rw [check, hlogging, hfallback, hcredentials]
  rfl

/-- A configuration whose patterns can be read and whose targets are sound presents the login that
stands at the place which decides. -/
lemma exists_presents_of_check {env : Environment} {draft : ConfigDraft} {config : Config}
    {place : LoginPlace} {login : LoginDraft} {target : Target}
    (hcheck : check env draft = .ok config) (hreadable : config.fallback.Readable)
    (hsound : Sound config.credentials) (hused : draft.usedLogin? place = some login)
    (hdecides : draft.Decides target.text place) :
    ∃ auths, Presents env draft place login target auths := by
  obtain ⟨auths, hauths⟩ := exists_authenticators_eq_ok hreadable hsound
  exact ⟨auths, ⟨config, hcheck, hauths⟩, hused, hdecides⟩

section Only

variable {env : Environment} {login : LoginDraft} {family : Family} {given : Login}
  (h : login.Gives env family given)

include h

/-- A credential is checked as its login is. -/
lemma checkCredential_of_gives (context : String) :
    checkCredential env context login = .ok (given.credential family) := by
  rw [checkCredential, h.checkScheme_eq, h.checkLogin_eq]
  rfl

/-- A target is checked as its login is, unless it is disabled. -/
lemma checkScopedLogin_of_gives (text : String) :
    checkScopedLogin env ⟨text, false, login⟩ = .ok ⟨text, family, some given⟩ := by
  rw [checkScopedLogin, h.checkScheme_eq]
  change (checkLogin env text login >>= fun checked => _) = _
  rw [h.checkLogin_eq]
  rfl

/-- A login can be written for a target alone. -/
lemma exists_presents_credential {target : Target}
    (htarget : Target.parse target.text = .ok target) (pattern : String) :
    ∃ auths, Presents env (.only login target.text pattern (.credential 0)) (.credential 0) login
      target auths := by
  have hcheck : check env (.only login target.text pattern (.credential 0)) =
      .ok ⟨⟨"info", .pretty⟩, [⟨target.text, family, some given⟩], .none⟩ :=
    check_of_parts rfl rfl (mapM_singleton_eq_ok (checkScopedLogin_of_gives h target.text))
  have hsound : Sound [⟨target.text, family, some given⟩] :=
    ⟨List.forall_mem_singleton.mpr (isOk_iff.mpr ⟨target, htarget⟩), List.nodup_singleton _⟩
  refine exists_presents_of_check hcheck (List.forall_mem_nil _) hsound rfl ?_
  intro other item hitem
  cases other with
  | zero =>
    cases hitem
    exact ⟨fun _ => rfl, fun _ => ⟨rfl, rfl⟩⟩
  | succ other => exact nomatch hitem

/-- A login can be written for every target. -/
lemma exists_presents_fallback (target : Target) (pattern : String) :
    ∃ auths, Presents env (.only login target.text pattern .fallback) .fallback login target
      auths := by
  have hfallback : checkFallback env ⟨some "default", login, []⟩ =
      .ok (.always (given.credential family)) := by
    rw [checkFallback, checkCredential_of_gives h]
    rfl
  have hcheck : check env (.only login target.text pattern .fallback) =
      .ok ⟨⟨"info", .pretty⟩, [], .always (given.credential family)⟩ :=
    check_of_parts rfl hfallback rfl
  exact exists_presents_of_check hcheck (List.forall_mem_nil _)
    ⟨List.forall_mem_nil _, List.nodup_nil⟩ rfl (List.forall_mem_nil _)

/-- A login can be written for the targets that match a pattern. -/
lemma exists_presents_pattern {target : Target} {pattern : String}
    (hpattern : Glob.accepts pattern target.text = true) :
    ∃ auths, Presents env (.only login target.text pattern (.pattern 0)) (.pattern 0) login target
      auths := by
  have hfallback : checkFallback env ⟨some "patterns", login, [⟨pattern, login⟩]⟩ =
      .ok (.patterns [(pattern, given.credential family)]) := by
    rw [checkFallback, mapM_singleton_eq_ok]
    · rfl
    · rw [checkCredential_of_gives h]
      rfl
  have hcheck : check env (.only login target.text pattern (.pattern 0)) =
      .ok ⟨⟨"info", .pretty⟩, [], .patterns [(pattern, given.credential family)]⟩ :=
    check_of_parts rfl hfallback rfl
  have hreadable : (Glob.Pattern.parse pattern).isOk = true := by
    unfold Glob.accepts at hpattern
    split at hpattern
    · next parsed hparsed => exact isOk_iff.mpr ⟨parsed, hparsed⟩
    · exact nomatch hpattern
  refine exists_presents_of_check hcheck (List.forall_mem_singleton.mpr hreadable)
    ⟨List.forall_mem_nil _, List.nodup_nil⟩ rfl ⟨List.forall_mem_nil _, ?_⟩
  simp [ConfigDraft.only, hpattern]

/-- A login that comes to something can be written in each place, for any target and any pattern
that matches it. -/
theorem exists_presents {target : Target} (htarget : Target.parse target.text = .ok target)
    {pattern : String} (hpattern : Glob.accepts pattern target.text = true) :
    ∀ place ∈ [.credential 0, .fallback, .pattern 0],
      ∃ auths, Presents env (.only login target.text pattern place) place login target auths := by
  rw [List.forall_mem_cons, List.forall_mem_cons, List.forall_mem_singleton]
  exact ⟨exists_presents_credential h htarget pattern, exists_presents_fallback h target pattern,
    exists_presents_pattern h hpattern⟩

end Only

/-! ### The same login in two places -/

/-- A login presents the same user with the same password wherever it stands.  The credential is the
same as well, unless the login is for NTLM, lacks a workstation or a domain, and stands for the
target itself in one of two places and in the fallback in the other. -/
theorem resolve_eq_iff_of_presents {env : Environment} {login : LoginDraft} {target : Target}
    {draft other : ConfigDraft} {place otherPlace : LoginPlace} {auths otherAuths : Authenticators}
    (h : Presents env draft place login target auths)
    (hother : Presents env other otherPlace login target otherAuths) :
    ∃ family given, login.Gives env family given ∧
      auths.resolve target = some (given.credentialAt family place) ∧
      otherAuths.resolve target = some (given.credentialAt family otherPlace) ∧
      (given.credentialAt family place).SameUser (given.credentialAt family otherPlace) ∧
      (auths.resolve target = otherAuths.resolve target ↔
        place.isStored = otherPlace.isStored ∨ login.scheme ≠ some "ntlm" ∨
          login.workstation.isSome = true ∧ login.domain.isSome = true) := by
  obtain ⟨family, given, hgives, hresolve⟩ := h.exists_resolve_eq
  obtain ⟨family', given', hgives', hresolve'⟩ := hother.exists_resolve_eq
  obtain ⟨rfl, rfl⟩ := hgives.unique hgives'
  refine ⟨family, given, hgives, hresolve, hresolve', given.sameUser_credentialAt family place
    otherPlace, ?_⟩
  rw [hresolve, hresolve', Option.some.injEq, Login.credentialAt_eq_iff, hgives.family_eq_ntlm_iff,
    hgives.workstation_eq, hgives.domain_eq, imp_iff_not_or]

/-- A login with a workstation and a domain, and the same without. -/
def fullLogin : LoginDraft :=
  ⟨some "ntlm", some "alice", some "pw", none, some "ws1", some "corp"⟩

@[inherit_doc fullLogin]
def bareLogin : LoginDraft :=
  ⟨some "ntlm", some "alice", some "pw", none, none, none⟩

/-- There is a target at which a login that comes to something can be written in each place. -/
lemma exists_target_presents {login : LoginDraft} {given : Login}
    (h : login.Gives ⟨[]⟩ .ntlm given) :
    ∃ target : Target, target.text = "https://a.example/" ∧
      ∀ place ∈ [.credential 0, .fallback, .pattern 0],
        ∃ auths, Presents ⟨[]⟩ (.only login "https://a.example/" "*" place) place login target
          auths := by
  have hok : (Target.parse "https://a.example/").isOk = true := by decide +kernel
  obtain ⟨target, htarget⟩ := isOk_iff.mp hok
  have htext := Target.text_of_parse htarget
  rw [← htext] at htarget ⊢
  refine ⟨target, rfl, exists_presents h htarget ?_⟩
  rw [htext]
  decide +kernel

/-- With a workstation and a domain the credential is the same for the target itself and by a
pattern. -/
theorem resolve_eq_iff_of_presents_fullLogin :
    ∃ (target : Target) (stored direct : Authenticators), target.text = "https://a.example/" ∧
      Presents ⟨[]⟩ (.only fullLogin "https://a.example/" "*" (.credential 0)) (.credential 0)
        fullLogin target stored ∧
      Presents ⟨[]⟩ (.only fullLogin "https://a.example/" "*" (.pattern 0)) (.pattern 0)
        fullLogin target direct ∧
      stored.resolve target = direct.resolve target := by
  have hgives : fullLogin.Gives ⟨[]⟩ .ntlm ⟨"alice", ⟨"pw"⟩, some "ws1", some "corp"⟩ :=
    ⟨rfl, fun _ => rfl⟩
  obtain ⟨target, htext, hpresents⟩ := exists_target_presents hgives
  obtain ⟨stored, hstored⟩ := hpresents (.credential 0) (by simp)
  obtain ⟨direct, hdirect⟩ := hpresents (.pattern 0) (by simp)
  obtain ⟨-, -, -, -, -, -, heq⟩ := resolve_eq_iff_of_presents hstored hdirect
  exact ⟨target, stored, direct, htext, hstored, hdirect, heq.mpr (Or.inr (Or.inr ⟨rfl, rfl⟩))⟩

/-- Without them it is not: the target is presented with empty ones where the fallback leaves them
unset. -/
theorem exists_resolve_ne :
    ∃ (target : Target) (stored direct : Authenticators), target.text = "https://a.example/" ∧
      Presents ⟨[]⟩ (.only bareLogin "https://a.example/" "*" (.credential 0)) (.credential 0)
        bareLogin target stored ∧
      Presents ⟨[]⟩ (.only bareLogin "https://a.example/" "*" .fallback) .fallback
        bareLogin target direct ∧
      stored.resolve target = some (.ntlm ⟨"alice", ⟨"pw"⟩, some "", some ""⟩) ∧
      direct.resolve target = some (.ntlm ⟨"alice", ⟨"pw"⟩, none, none⟩) ∧
      stored.resolve target ≠ direct.resolve target := by
  have hgives : bareLogin.Gives ⟨[]⟩ .ntlm ⟨"alice", ⟨"pw"⟩, none, none⟩ := ⟨rfl, fun _ => rfl⟩
  obtain ⟨target, htext, hpresents⟩ := exists_target_presents hgives
  obtain ⟨stored, hstored⟩ := hpresents (.credential 0) (by simp)
  obtain ⟨direct, hdirect⟩ := hpresents .fallback (by simp)
  have hempty : stored.resolve target = some (.ntlm ⟨"alice", ⟨"pw"⟩, some "", some ""⟩) := by
    obtain ⟨family, given, hgiven, hresolve⟩ := hstored.exists_resolve_eq
    obtain ⟨rfl, rfl⟩ := hgiven.unique hgives
    rw [hresolve]
    decide
  have hunset : direct.resolve target = some (.ntlm ⟨"alice", ⟨"pw"⟩, none, none⟩) := by
    obtain ⟨family, given, hgiven, hresolve⟩ := hdirect.exists_resolve_eq
    obtain ⟨rfl, rfl⟩ := hgiven.unique hgives
    rw [hresolve]
    decide
  refine ⟨target, stored, direct, htext, hstored, hdirect, hempty, hunset, ?_⟩
  rw [hempty, hunset]
  decide

end Config

end ScopedAuth
