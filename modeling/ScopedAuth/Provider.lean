import ScopedAuth.Credential
import ScopedAuth.Scope

/-!
# Providers

A provider holds the credentials that an authentication engine reads when it is challenged, by
scope.
-/

namespace ScopedAuth

/-- Credentials by scope. -/
structure Provider where
  credentials : List (Scope × Credential)
  distinct : (credentials.map (·.1)).Nodup

namespace Provider

/-- The provider without credentials. -/
def empty : Provider :=
  ⟨[], List.nodup_nil⟩

/-- Sets or replaces the credential for a scope in a list. -/
def place (scope : Scope) (credential : Credential) :
    List (Scope × Credential) → List (Scope × Credential)
  | [] => [(scope, credential)]
  | (key, old) :: rest =>
    if key = scope then (scope, credential) :: rest else (key, old) :: place scope credential rest

theorem mem_keys_place {scope other : Scope} {credential : Credential}
    {credentials : List (Scope × Credential)}
    (h : other ∈ (place scope credential credentials).map (·.1)) :
    other = scope ∨ other ∈ credentials.map (·.1) := by
  induction credentials with
  | nil => exact Or.inl (List.mem_singleton.mp h)
  | cons first rest ih =>
    obtain ⟨key, old⟩ := first
    unfold place at h
    split at h
    · rcases List.mem_cons.mp h with h | h
      · exact Or.inl h
      · exact Or.inr (List.mem_cons_of_mem _ h)
    · rcases List.mem_cons.mp h with h | h
      · exact Or.inr (h ▸ List.mem_cons_self)
      · exact (ih h).imp id (List.mem_cons_of_mem _)

/-- Setting a credential keeps the scopes distinct. -/
theorem nodup_place (scope : Scope) (credential : Credential)
    {credentials : List (Scope × Credential)} (h : (credentials.map (·.1)).Nodup) :
    ((place scope credential credentials).map (·.1)).Nodup := by
  induction credentials with
  | nil => exact List.nodup_cons.mpr ⟨List.not_mem_nil, List.nodup_nil⟩
  | cons first rest ih =>
    obtain ⟨key, old⟩ := first
    obtain ⟨hkey, hrest⟩ := List.nodup_cons.mp h
    unfold place
    split
    · next heq => exact List.nodup_cons.mpr ⟨heq ▸ hkey, hrest⟩
    · next hne =>
      refine List.nodup_cons.mpr ⟨fun hmem => ?_, ih hrest⟩
      exact (mem_keys_place hmem).elim hne hkey

/-- Sets or replaces the credential for a scope. -/
def set (provider : Provider) (scope : Scope) (credential : Credential) : Provider :=
  ⟨place scope credential provider.credentials, nodup_place scope credential provider.distinct⟩

/-- The better of two candidates, each with its score; the later one if they are equal, which two
different scopes that cover the same one never are. -/
def better : Option (Nat × Credential) → Option (Nat × Credential) → Option (Nat × Credential)
  | none, other => other
  | one, none => one
  | some a, some b => if b.1 < a.1 then some a else some b

/-- The credential of the scope that covers another most specifically. -/
def best? (credentials : List (Scope × Credential)) (scope : Scope) : Option Credential :=
  (credentials.foldl
    (fun found (key, credential) => better found ((key.score? scope).map (·, credential)))
    none).map (·.2)

/-- The credential for a scope: its own, or else that of the scope which covers it most
specifically. -/
def get? (provider : Provider) (scope : Scope) : Option Credential :=
  (provider.credentials.lookup scope).or (best? provider.credentials scope)

/-- Forgets all credentials. -/
def clear (_ : Provider) : Provider :=
  empty

/-- How many credentials there are. -/
def size (provider : Provider) : Nat :=
  provider.credentials.length

/-- Whether there are no credentials. -/
def isEmpty (provider : Provider) : Bool :=
  provider.credentials.isEmpty

end Provider

end ScopedAuth
