import ScopedAuth.Cli.Listing
import ScopedAuth.Cli.Usage
import ScopedAuth.Config.Load

/-!
# Running a command

Reads the configuration and carries out one command on it.  A command that fails prints nothing.
-/

namespace ScopedAuth.Cli

/-- How a run ends. -/
structure Outcome where
  code : UInt32
  /-- What is printed. -/
  output : String
  /-- What is said about a failure. -/
  complaint : String
  deriving DecidableEq

/-- Lines as they are printed. -/
def printed (lines : List String) : String :=
  String.join (lines.map (· ++ "\n"))

/-- What is told about a credential; its password stays hidden. -/
def report (credential : Credential) : List String :=
  ["Scheme:      " ++ credential.family.name,
    "Username:    " ++ credential.username,
    "Password:    ********"] ++
  match credential with
  | .basic _ => []
  | .ntlm ntlm =>
    ["Workstation: " ++ ntlm.workstation.getD "-",
      "Domain:      " ++ ntlm.domain.getD "-",
      "Principal:   " ++ ntlm.principal]

/-- The lines that a command prints. -/
def perform (auths : Authenticators) : Command → Except StoreError (List String)
  | .check =>
    .ok ["Configuration OK: " ++ toString auths.basic.store.size ++ " basic and " ++
      toString auths.ntlm.store.size ++ " ntlm targets"]
  | .list format => .ok (listing format (rows auths))
  | .resolve target => do
    let target ← (Target.parse target).mapError .target
    match auths.resolve target with
    | some credential => return report credential
    | none => return ["No credentials for " ++ target.text]

/-- How a command ends on a configuration, if there is one. -/
def conclude (config : Except ConfigError Config) (command : Command) : Outcome :=
  match config with
  | .error error => ⟨1, "", error.message⟩
  | .ok config =>
    match config.authenticators with
    | .error error => ⟨1, "", error.message⟩
    | .ok auths =>
      match perform auths command with
      | .error error => ⟨1, "", error.message⟩
      | .ok lines => ⟨0, printed lines, ""⟩

/-- The configuration to use: the named one, else the one in its usual place, else the one that says
nothing. -/
def chooseConfig {m : Type → Type} [Monad m] (look : String → m (Option File)) (env : Environment)
    (named : Option String) (account : Option String := none) : m (Except ConfigError Config) := do
  match named with
  | some path => Config.load look env path account
  | none =>
    let path := env.defaultConfigPath account
    match ← look path with
    | none => return .ok .default
    | some _ => Config.load look env path account

/-- Runs the program with its arguments, for an account with its home directory. -/
def run {m : Type → Type} [Monad m] (look : String → m (Option File)) (env : Environment)
    (arguments : List String) (account : Option String := none) : m Outcome := do
  match readArguments arguments with
  | .error (.help command) => return ⟨0, printed (usage command), ""⟩
  | .error .version => return ⟨0, printed ["realmkey 0.1.0"], ""⟩
  | .error (.wrong error) => return ⟨2, "", error.message⟩
  | .ok invocation =>
    return conclude (← chooseConfig look env invocation.config account) invocation.command

end ScopedAuth.Cli
