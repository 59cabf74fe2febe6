import ScopedAuth.Authenticator
import ScopedAuth.Config.Basic

/-!
# The authenticators of a configuration

A configuration that can be carried out gives one authenticator for each family, both with the same
fallback.  A target may be listed once for each family, with a login or without.
-/

namespace ScopedAuth

/-- An authenticator for each family. -/
structure Authenticators where
  basic : Authenticator .basic
  ntlm : Authenticator .ntlm

namespace Authenticators

/-- The credential to present to a target: that of NTLM if something is stored for the target there,
else that of Basic, else that of the fallback. -/
def resolve (auths : Authenticators) (target : Target) : Option Credential :=
  if auths.ntlm.store.contains target then auths.ntlm.resolve target
  else auths.basic.resolve target

/-- How many entries are stored. -/
def size (auths : Authenticators) : Nat :=
  auths.basic.store.size + auths.ntlm.store.size

/-- Whether nothing is stored. -/
def isEmpty (auths : Authenticators) : Bool :=
  auths.size = 0

end Authenticators

/-- The fallback that a policy asks for. -/
def FallbackPolicy.build : FallbackPolicy → Except ConfigError Fallback
  | .none => .ok .none
  | .always credential => .ok (.always credential)
  | .patterns items => do
    let list ← items.foldlM (fun (list : PatternList) (pattern, credential) =>
      (list.add pattern credential).mapError fun e => .invalid (.malformedPattern pattern e))
      PatternList.empty
    return .patterns list

namespace Config

/-- The targets of a list of logins, each with its family and entry.  `seen` lists those in front,
none of which may be listed again. -/
def readTargets (seen : List (Family × String)) :
    List ScopedLogin → Except SetupError (List (Family × Target × Option Entry))
  | [] => .ok []
  | item :: rest => do
    let target ← Authenticator.readTarget item.target
    if seen.contains (item.family, target.text) then
      throw (.config (.invalid (.duplicateTarget target.text item.family)))
    let more ← readTargets ((item.family, target.text) :: seen) rest
    return (item.family, target, item.login.map (·.entry item.family)) :: more

/-- The items of a family, as a batch for its store. -/
def batch (family : Family) (items : List (Family × Target × Option Entry)) : Batch :=
  (items.filter (·.1 = family)).map (·.2)

/-- The authenticators that carry out a configuration. -/
def authenticators (config : Config) : Except SetupError Authenticators := do
  let fallback ← config.fallback.build.mapError .config
  let items ← readTargets [] config.credentials
  let basic ← Authenticator.ofBatch (batch .basic items)
  let ntlm ← Authenticator.ofBatch (batch .ntlm items)
  return ⟨basic.withFallback fallback, ntlm.withFallback fallback⟩

end Config

end ScopedAuth
