import ScopedAuth.Proofs.Config.Refusal
import ScopedAuth.Proofs.Redaction.Authenticator

/-!
# Configurations without their passwords

The authenticators of a redacted configuration are those of the configuration, redacted, and a
configuration that is refused is refused for the same reason (`authenticators_redact`).
-/

namespace ScopedAuth

/-- The login without its password. -/
def Login.redact (login : Login) : Login :=
  { login with password := login.password.wipe }

/-- A redacted login is stored as the redacted entry. -/
lemma Login.entry_redact (family : Family) (login : Login) :
    login.redact.entry family = (login.entry family).redact := by
  cases family with
  | basic => rfl
  | ntlm => rfl

/-- The target with its login, without the password. -/
def ScopedLogin.redact (item : ScopedLogin) : ScopedLogin :=
  { item with login := item.login.map Login.redact }

/-! ### Policies -/

namespace FallbackPolicy

/-- The policy without its passwords. -/
def redact : FallbackPolicy → FallbackPolicy
  | .none => .none
  | .always credential => .always credential.redact
  | .patterns items => .patterns (items.map fun item => (item.1, item.2.redact))

/-- A pattern is added with the redacted credential as with the credential itself. -/
lemma addItem_redact (list : PatternList) (item : String × Credential) :
    addItem list.redact (item.1, item.2.redact) = (addItem list item).map PatternList.redact := by
  rw [addItem, addItem, PatternList.add_redact]
  cases list.add item.1 item.2 with
  | error error => rfl
  | ok next => rfl

/-- Patterns are added with the redacted credentials as with the credentials themselves. -/
lemma foldlM_addItem_redact (list : PatternList) (items : List (String × Credential)) :
    (items.map fun item => (item.1, item.2.redact)).foldlM addItem list.redact =
      (items.foldlM addItem list).map PatternList.redact := by
  induction items generalizing list with
  | nil => rfl
  | cons item rest ih =>
    rw [List.map_cons, List.foldlM_cons, List.foldlM_cons, addItem_redact]
    cases addItem list item with
    | error error => rfl
    | ok next => exact ih next

/-- The fallback of a redacted policy is that of the policy, redacted. -/
lemma build_redact (policy : FallbackPolicy) :
    policy.redact.build = policy.build.map Fallback.redact := by
  cases policy with
  | none => rfl
  | always credential => rfl
  | patterns items =>
    have hfold : (items.map fun item => (item.1, item.2.redact)).foldlM addItem .empty =
        (items.foldlM addItem .empty).map PatternList.redact :=
      foldlM_addItem_redact .empty items
    rw [redact, build_patterns, build_patterns, hfold]
    cases items.foldlM addItem .empty with
    | error error => rfl
    | ok list => rfl

end FallbackPolicy

/-! ### Configurations -/

namespace Config

/-- The configuration without its passwords. -/
def redact (config : Config) : Config :=
  { config with
    credentials := config.credentials.map ScopedLogin.redact
    fallback := config.fallback.redact }

/-- What is read for a target, without its password. -/
def redactItem (item : Family × Target × Option Entry) : Family × Target × Option Entry :=
  (item.1, item.2.1, item.2.2.map Entry.redact)

/-- The same targets are read from redacted logins, or refused for the same reason. -/
lemma readTargets_redact (seen : List (Family × String)) (items : List ScopedLogin) :
    readTargets seen (items.map ScopedLogin.redact) =
      (readTargets seen items).map (List.map redactItem) := by
  induction items generalizing seen with
  | nil => rfl
  | cons item rest ih =>
    have hentry : item.redact.login.map (·.entry item.family) =
        (item.login.map (·.entry item.family)).map Entry.redact := by
      rw [ScopedLogin.redact, Option.map_map, Option.map_map]
      exact Option.map_congr fun login _ => login.entry_redact item.family
    rw [List.map_cons, readTargets, readTargets]
    change Authenticator.readTarget item.target >>= _ = _
    cases Authenticator.readTarget item.target with
    | error error => rfl
    | ok target =>
      change (if seen.contains (item.family, target.text) = true then _ else _) =
        Except.map _ (if seen.contains (item.family, target.text) = true then _ else _)
      split
      · rfl
      · change readTargets ((item.family, target.text) :: seen) _ >>= _ = _
        rw [ih]
        cases readTargets ((item.family, target.text) :: seen) rest with
        | error error => rfl
        | ok more =>
          exact congrArg
            (fun entry => Except.ok ((item.family, target, entry) :: more.map redactItem)) hentry

/-- The authenticator of a family is redacted with the items. -/
lemma ofBatch_batch_redact (family : Family) (items : List (Family × Target × Option Entry)) :
    (Authenticator.ofBatch (batch family (items.map redactItem)) :
        Except SetupError (Authenticator family)) =
      (Authenticator.ofBatch (batch family items)).map Authenticator.redact := by
  have hbatch : batch family (items.map redactItem) = Batch.redact (batch family items) := by
    rw [batch, batch, Batch.redact, List.filter_map, List.map_map, List.map_map]
    rfl
  rw [hbatch, Authenticator.ofBatch_redact]

/-- The authenticators of a redacted configuration are those of the configuration, redacted; one
that is refused is refused for the same reason. -/
lemma authenticators_redact (config : Config) :
    config.redact.authenticators = config.authenticators.map Authenticators.redact := by
  rw [authenticators, authenticators, redact, FallbackPolicy.build_redact, readTargets_redact]
  cases config.fallback.build with
  | error error => rfl
  | ok fallback =>
    cases readTargets [] config.credentials with
    | error error => rfl
    | ok items =>
      simp only [Except.mapError, Except.map, bind, Except.bind, ofBatch_batch_redact]
      cases (Authenticator.ofBatch (batch .basic items) :
          Except SetupError (Authenticator .basic)) with
      | error error => rfl
      | ok basic =>
        cases (Authenticator.ofBatch (batch .ntlm items) :
            Except SetupError (Authenticator .ntlm)) with
        | error error => rfl
        | ok ntlm => rfl

end Config

end ScopedAuth
