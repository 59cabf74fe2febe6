import ScopedAuth.Config.Error
import ScopedAuth.Fallback
import ScopedAuth.Login
import ScopedAuth.Provider
import ScopedAuth.Store

/-!
# Scoped authenticators

An authenticator presents to each target the credential that is stored for it, and leaves the
targets that nothing is stored for to its fallback.
-/

namespace ScopedAuth

/-- A store and the fallback behind it. -/
structure Authenticator (family : Family) where
  store : Store family
  fallback : Fallback

/-- The credential that an entry stands for, unless it lacks a field that the family needs. -/
def Entry.credential? (family : Family) (entry : Entry) : Option Credential :=
  match family with
  | .basic => do
    return .basic ⟨← entry.username?, entry.password.toSecret⟩
  | .ntlm => do
    return .ntlm (NtlmCredential.make (← entry.identity.get? 0) entry.password.toSecret
      (entry.identity.get? 1) (entry.identity.get? 2))

namespace Authenticator

variable {family : Family}

/-- The authenticator of a store, without a fallback. -/
def ofStore (store : Store family) : Authenticator family :=
  ⟨store, .none⟩

/-- Reads the target that a login is for. -/
def readTarget (target : String) : Except SetupError Target :=
  (Target.parse target).mapError fun e => .argument (.target e)

/-- The authenticator of a login for one target. -/
def single (target : String) (login : Login) : Except SetupError (Authenticator family) := do
  let target ← readTarget target
  return ofStore (← (Store.singleton target (login.entry family)).mapError .argument)

/-- The authenticator of a batch of entries. -/
def ofBatch (batch : Batch) : Except SetupError (Authenticator family) := do
  return ofStore (← (Store.ofBatch batch).mapError .argument)

/-- Puts another fallback behind the store. -/
def withFallback (auth : Authenticator family) (fallback : Fallback) : Authenticator family :=
  { auth with fallback }

/-- Adds a login for a target, or replaces what is stored for it. -/
def add (auth : Authenticator family) (target : String) (login : Login) :
    Except SetupError (Authenticator family) := do
  let target ← readTarget target
  let (store, _) ← (auth.store.insert target (login.entry family)).mapError .argument
  return { auth with store }

/-- The credential to present to a target. -/
def resolve (auth : Authenticator family) (target : Target) : Option Credential :=
  match auth.store.get? target with
  | some entry => entry.credential? family
  | none => auth.fallback.resolve target

/-- Hands the credential for a target to a provider, under the scope of the target; tells whether
there was one of each. -/
def apply (auth : Authenticator family) (provider : Provider) (target : Target) :
    Provider × Bool :=
  match Scope.ofTarget? target, auth.resolve target with
  | some scope, some credential => (provider.set scope credential, true)
  | _, _ => (provider, false)

end Authenticator

end ScopedAuth
