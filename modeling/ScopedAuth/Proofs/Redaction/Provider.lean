import ScopedAuth.Proofs.Provider.Lookup
import ScopedAuth.Proofs.Redaction.Authenticator

/-!
# Providers without their passwords

A provider is asked for scopes, and its credentials are only handed on.  So the redacted provider
answers with the redacted credential (`Provider.get?_redact`), and what an authenticator registers
with a provider, its redaction registers with the redacted one (`Authenticator.apply_redact`).
-/

namespace ScopedAuth

namespace Provider

/-- The credential for a scope, without its password. -/
def redactItem (item : Scope × Credential) : Scope × Credential :=
  (item.1, item.2.redact)

/-- Redacted credentials are for the same scopes. -/
lemma map_fst_map_redactItem (credentials : List (Scope × Credential)) :
    (credentials.map redactItem).map (·.1) = credentials.map (·.1) := by
  rw [List.map_map]
  rfl

/-- The provider without its passwords. -/
def redact (provider : Provider) : Provider :=
  ⟨provider.credentials.map redactItem, by
    rw [map_fst_map_redactItem]
    exact provider.distinct⟩

/-- A redacted credential takes the place that the credential takes. -/
lemma place_redact (scope : Scope) (credential : Credential)
    (credentials : List (Scope × Credential)) :
    place scope credential.redact (credentials.map redactItem) =
      (place scope credential credentials).map redactItem := by
  induction credentials with
  | nil => rfl
  | cons first rest ih =>
    obtain ⟨key, old⟩ := first
    unfold place
    by_cases hkey : key = scope
    · simp [redactItem, hkey]
    · simp [redactItem, hkey, ih]

/-- A redacted credential is set in the redacted provider as the credential in the provider. -/
lemma set_redact (provider : Provider) (scope : Scope) (credential : Credential) :
    provider.redact.set scope credential.redact = (provider.set scope credential).redact := by
  simp only [set, redact, place_redact]

/-- The redacted provider has the redacted credential registered for a scope. -/
lemma registered?_redact (provider : Provider) (scope : Scope) :
    provider.redact.registered? scope = (provider.registered? scope).map Credential.redact :=
  lookup_map_snd Credential.redact provider.credentials scope

/-- The redacted provider answers with the redacted credential. -/
lemma get?_redact (provider : Provider) (scope : Scope) :
    provider.redact.get? scope = (provider.get? scope).map Credential.redact := by
  have hregistered : provider.redact.registered? =
      Option.map Credential.redact ∘ provider.registered? :=
    funext provider.registered?_redact
  rw [get?_eq_findSome?, get?_eq_findSome?, List.map_findSome?, hregistered]

/-- The redacted provider has as many credentials. -/
lemma size_redact (provider : Provider) : provider.redact.size = provider.size :=
  List.length_map _

/-- The redacted provider is empty if the provider is. -/
lemma isEmpty_redact (provider : Provider) : provider.redact.isEmpty = provider.isEmpty :=
  List.isEmpty_map

end Provider

/-- What an authenticator registers with a provider is registered without its password by the
redacted authenticator with the redacted provider, and the two tell the same. -/
lemma Authenticator.apply_redact {family : Family} (auth : Authenticator family)
    (provider : Provider) (target : Target) :
    auth.redact.apply provider.redact target =
      ((auth.apply provider target).1.redact, (auth.apply provider target).2) := by
  rw [apply, apply, resolve_redact]
  cases Scope.ofTarget? target with
  | none => rfl
  | some scope =>
    cases auth.resolve target with
    | none => rfl
    | some credential =>
      exact congrArg (·, true) (provider.set_redact scope credential)

end ScopedAuth
