import ScopedAuth.Config.Draft
import ScopedAuth.Config.Error
import ScopedAuth.Environment
import ScopedAuth.Login

/-!
# Configurations

A configuration says which logins belong to which targets, what answers for the other targets and
how to log.  It is made from a draft whose every part makes sense; the first part that does not is
reported, in the order of logging, fallback and credentials.
-/

namespace ScopedAuth

/-- How log lines are written. -/
inductive LogFormat where
  | pretty
  | json
  deriving DecidableEq

/-- How to log. -/
structure Logging where
  level : String
  format : LogFormat
  deriving DecidableEq

/-- A target with its login, or without one if it explicitly has none. -/
structure ScopedLogin where
  target : String
  family : Family
  login : Option Login
  deriving DecidableEq

/-- What answers for the targets without a login. -/
inductive FallbackPolicy where
  | none
  | always (credential : Credential)
  | patterns (items : List (String × Credential))
  deriving DecidableEq

/-- A whole configuration. -/
structure Config where
  logging : Logging
  credentials : List ScopedLogin
  fallback : FallbackPolicy
  deriving DecidableEq

namespace Config

/-- The configuration that says nothing. -/
def default : Config :=
  ⟨⟨"info", .pretty⟩, [], .none⟩

/-- The logging that a draft asks for. -/
def checkLogging (draft : LoggingDraft) : Except ConfigError Logging := do
  let format ← match draft.format with
    | none | some "pretty" => pure LogFormat.pretty
    | some "json" => pure .json
    | some other => throw (.invalid (.unknownLogFormat other))
  return ⟨draft.level.getD "info", format⟩

/-- The family of the scheme that a draft names. -/
def checkScheme (draft : LoginDraft) : Except ConfigError Family :=
  match draft.scheme with
  | none | some "basic" | some "digest" => .ok .basic
  | some "ntlm" => .ok .ntlm
  | some other => .error (.invalid (.unknownScheme other))

/-- The password that a draft gives or names a variable for; without either it is empty. -/
def checkPassword (env : Environment) (context : String) (draft : LoginDraft) :
    Except ConfigError Password :=
  match draft.password, draft.passwordVariable with
  | none, none => .ok ⟨""⟩
  | some password, none => .ok ⟨password⟩
  | none, some name =>
    match env.get? name with
    | some password => .ok ⟨password⟩
    | none => .error (.missingVariable name)
  | some _, some _ => .error (.invalid (.twoPasswords context))

/-- The login of a draft. -/
def checkLogin (env : Environment) (context : String) (draft : LoginDraft) :
    Except ConfigError Login := do
  match draft.username with
  | none => throw (.invalid (.missingUsername context))
  | some username =>
    return ⟨username, ← checkPassword env context draft, draft.workstation, draft.domain⟩

/-- The credential of a draft. -/
def checkCredential (env : Environment) (context : String) (draft : LoginDraft) :
    Except ConfigError Credential := do
  let family ← checkScheme draft
  return (← checkLogin env context draft).credential family

/-- What a draft says about the other targets. -/
def checkFallback (env : Environment) (draft : FallbackDraft) :
    Except ConfigError FallbackPolicy :=
  match draft.kind with
  | none | some "none" => .ok .none
  | some "default" => .always <$> checkCredential env "default fallback" draft.login
  | some "patterns" =>
    .patterns <$> draft.patterns.mapM fun p =>
      return (p.pattern, ← checkCredential env p.pattern p.login)
  | some other => .error (.invalid (.unknownFallback other))

/-- What a draft says about a target.  The login of a target that is disabled is not looked at, its
scheme is. -/
def checkScopedLogin (env : Environment) (draft : CredentialDraft) :
    Except ConfigError ScopedLogin := do
  let family ← checkScheme draft.login
  if draft.disabled then return ⟨draft.target, family, none⟩
  return ⟨draft.target, family, some (← checkLogin env draft.target draft.login)⟩

/-- The configuration of a draft. -/
def check (env : Environment) (draft : ConfigDraft) : Except ConfigError Config := do
  let logging ← checkLogging draft.logging
  let fallback ← checkFallback env draft.fallback
  let credentials ← draft.credentials.mapM (checkScopedLogin env)
  return ⟨logging, credentials, fallback⟩

/-- The configuration that a text describes. -/
def parse (env : Environment) (text : String) : Except ConfigError Config :=
  match Toml.read? text >>= Draft.config? with
  | some draft => check env draft
  | none => .error .malformed

end Config

end ScopedAuth
