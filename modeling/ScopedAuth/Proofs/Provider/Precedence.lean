import ScopedAuth.Proofs.Provider.Lookup

/-!
# The order of the scopes in a provider does not matter

Of the scopes that cover a given one no two have the same score.  Whoever goes through the scopes of
a provider therefore ends with the same credential, in whatever order they come, however ties would
be broken, and whether or not the scope itself is looked up first (`get?_precedence`).

Scopes that do not cover the one asked for might as well be absent (`get?_restrict`).  A scope with
a port covers none whose port is open, and a scope with a host none whose host is.
-/

namespace ScopedAuth

namespace Scope

/-- Scopes that cover the same scope differ in their scores. -/
lemma score?_ne_of_ne {one other scope : Scope} (hne : one ≠ other) {n m : Nat}
    (hone : one.score? scope = some n) (hother : other.score? scope = some m) : n ≠ m := by
  obtain ⟨honeCovers, rfl⟩ := score?_eq_some_iff.mp hone
  obtain ⟨hotherCovers, rfl⟩ := score?_eq_some_iff.mp hother
  exact fun hrank => hne (honeCovers.eq_of_rank_eq hotherCovers hrank)

/-- A scope that covers one without a port has none. -/
lemma Covers.port_eq_none {one scope : Scope} (h : one.Covers scope) (hport : scope.port = none) :
    one.port = none :=
  h.2.elim id fun heq => heq.trans hport

/-- A scope that covers one without a host has none. -/
lemma Covers.host_eq_none {one scope : Scope} (h : one.Covers scope) (hhost : scope.host = none) :
    one.host = none :=
  h.1.elim id fun heq => heq.trans hhost

end Scope

namespace Provider

/-- A credential is registered for a scope if the two stand in the list, and only then. -/
lemma registered?_eq_some_iff {provider : Provider} {scope : Scope} {credential : Credential} :
    provider.registered? scope = some credential ↔
      (scope, credential) ∈ provider.credentials := by
  refine ⟨mem_of_registered?_eq_some, fun hmem => ?_⟩
  cases hfound : provider.registered? scope with
  | none => exact absurd rfl (fst_ne_of_registered?_eq_none hfound hmem)
  | some other =>
    have hsame : (scope, other) = (scope, credential) :=
      List.inj_on_of_nodup_map provider.distinct (mem_of_registered?_eq_some hfound) hmem rfl
    rw [(Prod.mk.inj hsame).2]

/-- Providers with the same credentials, in whatever order, have the same registered for a scope. -/
lemma registered?_of_perm {one other : Provider} (h : one.credentials.Perm other.credentials)
    (scope : Scope) : one.registered? scope = other.registered? scope := by
  refine Option.ext fun credential => ?_
  rw [registered?_eq_some_iff, registered?_eq_some_iff, h.mem_iff]

/-- The scope itself comes first, then its host, its port and everything. -/
lemma get?_eq_orElse (provider : Provider) (scope : Scope) :
    provider.get? scope =
      (provider.registered? scope <|> provider.registered? ⟨scope.host, none⟩ <|>
        provider.registered? ⟨none, scope.port⟩ <|> provider.registered? ⟨none, none⟩) := by
  rw [get?_eq_findSome?]
  simp only [Scope.chain, List.findSome?_cons, List.findSome?_nil]
  cases provider.registered? scope <;> cases provider.registered? ⟨scope.host, none⟩ <;>
    cases provider.registered? ⟨none, scope.port⟩ <;>
    cases provider.registered? ⟨none, none⟩ <;> rfl

/-- Providers answer alike if the same is registered for every scope that covers the one asked
for. -/
lemma get?_congr {one other : Provider} {scope : Scope}
    (h : ∀ key : Scope, key.Covers scope → one.registered? key = other.registered? key) :
    one.get? scope = other.get? scope := by
  rw [get?_eq_orElse, get?_eq_orElse, h scope ⟨Or.inr rfl, Or.inr rfl⟩,
    h ⟨scope.host, none⟩ ⟨Or.inr rfl, Or.inl rfl⟩, h ⟨none, scope.port⟩ ⟨Or.inl rfl, Or.inr rfl⟩,
    h ⟨none, none⟩ ⟨Or.inl rfl, Or.inl rfl⟩]

/-- The credentials of a provider whose scopes meet a condition. -/
def restrict (provider : Provider) (keep : Scope → Bool) : Provider :=
  ⟨provider.credentials.filter fun item => keep item.1,
    provider.distinct.sublist (List.filter_sublist.map _)⟩

/-- What is registered for a scope that meets the condition stays registered. -/
lemma registered?_restrict {keep : Scope → Bool} {scope : Scope} (h : keep scope = true)
    (provider : Provider) :
    (provider.restrict keep).registered? scope = provider.registered? scope := by
  refine Option.ext fun credential => ?_
  rw [registered?_eq_some_iff, registered?_eq_some_iff, restrict, List.mem_filter]
  exact and_iff_left h

/-- Credentials for scopes that do not cover the one asked for have no part in the answer. -/
lemma get?_restrict {keep : Scope → Bool} {scope : Scope}
    (h : ∀ key : Scope, key.Covers scope → keep key = true) (provider : Provider) :
    (provider.restrict keep).get? scope = provider.get? scope :=
  get?_congr fun key hkey => registered?_restrict (h key hkey) provider

/-- To look for the scope itself first is no detour. -/
lemma best?_eq_get? (provider : Provider) (scope : Scope) :
    best? provider.credentials scope = provider.get? scope := by
  rw [best?_eq_findSome?, get?_eq_findSome?]

/-- A credential whose scope has the highest score is the answer. -/
lemma get?_eq_some_of_highest {provider : Provider} {key scope : Scope} {credential : Credential}
    {n : Nat} (hmem : (key, credential) ∈ provider.credentials) (hscore : key.score? scope = some n)
    (hhighest : ∀ item ∈ provider.credentials, ∀ m ∈ item.1.score? scope, m ≤ n) :
    provider.get? scope = some credential := by
  rw [← best?_eq_get?]
  obtain ⟨hcovers, rfl⟩ := Scope.score?_eq_some_iff.mp hscore
  refine best?_eq_some hmem hcovers provider.distinct fun item hitem hne hitemCovers => ?_
  have hitemScore := Scope.score?_eq_some_iff.mpr ⟨hitemCovers, rfl⟩
  exact Nat.lt_of_le_of_ne (hhighest item hitem _ hitemScore)
    (Scope.score?_ne_of_ne hne hitemScore hscore)

/-- The answer of a provider is the first that is registered for the scope asked for, for its host
alone, for its port alone and for everything, in this order.  Scopes that cover the same one never
have the same score, so neither the order of the credentials nor the way to find the highest score
matters, and to look for the scope itself first changes nothing.  Where no port is asked for, the
credentials for certain ports have no part in the answer, and likewise for hosts. -/
theorem get?_precedence (provider : Provider) (scope : Scope) :
    (∀ one other : Scope, one ≠ other → ∀ n m, one.score? scope = some n →
      other.score? scope = some m → n ≠ m) ∧
    (∀ other : Provider, other.credentials.Perm provider.credentials →
      other.get? scope = provider.get? scope) ∧
    (∀ key credential n, (key, credential) ∈ provider.credentials → key.score? scope = some n →
      (∀ item ∈ provider.credentials, ∀ m ∈ item.1.score? scope, m ≤ n) →
      provider.get? scope = some credential) ∧
    provider.get? scope =
      (provider.registered? scope <|> provider.registered? ⟨scope.host, none⟩ <|>
        provider.registered? ⟨none, scope.port⟩ <|> provider.registered? ⟨none, none⟩) ∧
    best? provider.credentials scope = provider.get? scope ∧
    (scope.port = none →
      (provider.restrict fun key => key.port = none).get? scope = provider.get? scope) ∧
    (scope.host = none →
      (provider.restrict fun key => key.host = none).get? scope = provider.get? scope) := by
  refine ⟨fun one other hne n m => Scope.score?_ne_of_ne hne, fun other hperm => ?_,
    fun key credential n => get?_eq_some_of_highest, get?_eq_orElse provider scope,
    best?_eq_get? provider scope, fun hport => ?_, fun hhost => ?_⟩
  · exact get?_congr fun key _ => registered?_of_perm hperm key
  · exact get?_restrict (fun key hkey => decide_eq_true (hkey.port_eq_none hport)) provider
  · exact get?_restrict (fun key hkey => decide_eq_true (hkey.host_eq_none hhost)) provider

/-- A provider with a credential for everything, one for a host and one for a port of that host. -/
def layered : Provider :=
  ((empty.set .any (.basic ⟨"anyone", ⟨"pw"⟩⟩)).set (.make "example.org" none)
    (.basic ⟨"host", ⟨"pw"⟩⟩)).set (.make "example.org" (some 8080)) (.basic ⟨"exact", ⟨"pw"⟩⟩)

/-- Without the port of the host, its credential is not given; the one for the host alone is. -/
theorem get?_precedence_layered :
    let scope := Scope.make "Example.org" none
    scope.port = none ∧
      (layered.restrict fun key => key.port = none).get? scope = layered.get? scope ∧
      (scope, .basic ⟨"host", ⟨"pw"⟩⟩) ∈ layered.credentials ∧ scope.score? scope = some 2 ∧
      (∀ item ∈ layered.credentials, ∀ m ∈ item.1.score? scope, m ≤ 2) ∧
      layered.get? scope = some (.basic ⟨"host", ⟨"pw"⟩⟩) := by
  intro scope
  have hport : scope.port = none := rfl
  have hmem : (scope, .basic ⟨"host", ⟨"pw"⟩⟩) ∈ layered.credentials := by decide +kernel
  have hscore : scope.score? scope = some 2 := by decide +kernel
  have hhighest : ∀ item ∈ layered.credentials, ∀ m ∈ item.1.score? scope, m ≤ 2 := by
    decide +kernel
  obtain ⟨-, -, hscan, -, -, hopen, -⟩ := get?_precedence layered scope
  exact ⟨hport, hopen hport, hmem, hscore, hhighest, hscan _ _ _ hmem hscore hhighest⟩

end Provider

end ScopedAuth
