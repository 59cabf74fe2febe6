import Mathlib.Data.List.Nodup
import Mathlib.Tactic.ByContra
import ScopedAuth.Provider

/-!
# Looking up the most specific scope

A scope covers another if every part of it is open or agrees.  At most four scopes cover a given
one, and no two of them are equally specific: `chain` lists them from the most to the least
specific.  A provider therefore answers with the first of the four that something is registered
for (`get?_eq_findSome?`), and the order in which it keeps its scopes is of no consequence.
-/

namespace ScopedAuth

namespace Scope

/-- Every part of a scope is open or the same as in the other. -/
def Covers (scope other : Scope) : Prop :=
  (scope.host = none ∨ scope.host = other.host) ∧ (scope.port = none ∨ scope.port = other.port)

/-- How specific a scope is: a host counts for more than a port. -/
def rank (scope : Scope) : Nat :=
  (if scope.host.isSome then 2 else 0) + (if scope.port.isSome then 1 else 0)

/-- The scopes that cover a scope, the most specific first. -/
def chain (scope : Scope) : List Scope :=
  [scope, ⟨scope.host, none⟩, ⟨none, scope.port⟩, ⟨none, none⟩]

/-- A part counts with its weight if it is not open. -/
lemma partScore_eq {α : Type} [DecidableEq α] (weight : Nat) (one other : Option α) :
    partScore weight one other =
      if one = none ∨ one = other then some (if one.isSome then weight else 0) else none := by
  cases one with
  | none => rfl
  | some a =>
    cases other with
    | none => simp [partScore]
    | some b => by_cases h : a = b <;> simp [partScore, h]

/-- A scope has a score for another if it covers it, and the score is how specific it is. -/
lemma score?_eq_some_iff {scope other : Scope} {n : Nat} :
    scope.score? other = some n ↔ scope.Covers other ∧ scope.rank = n := by
  rw [score?, partScore_eq, partScore_eq, Covers, rank]
  by_cases hhost : scope.host = none ∨ scope.host = other.host
  · by_cases hport : scope.port = none ∨ scope.port = other.port <;> simp [hhost, hport]
  · simp [hhost]

/-- Two parts that cover a third are the same if both are open or neither is. -/
lemma part_eq_of_isSome_eq {α : Type} {one another part : Option α}
    (hone : one = none ∨ one = part) (hanother : another = none ∨ another = part)
    (h : one.isSome = another.isSome) : one = another := by
  rcases hone with rfl | rfl
  · exact (Option.not_isSome_iff_eq_none.mp (Bool.eq_false_iff.mp h.symm)).symm
  · rcases hanother with rfl | rfl
    · exact Option.not_isSome_iff_eq_none.mp (Bool.eq_false_iff.mp h)
    · rfl

/-- Of the scopes that cover a scope no two are equally specific. -/
lemma Covers.eq_of_rank_eq {one another scope : Scope} (hone : one.Covers scope)
    (hanother : another.Covers scope) (h : one.rank = another.rank) : one = another := by
  have hopen : one.host.isSome = another.host.isSome ∧ one.port.isSome = another.port.isSome := by
    rw [rank, rank] at h
    split_ifs at h <;> simp_all
  obtain ⟨host, port⟩ := one
  obtain ⟨host', port'⟩ := another
  have hhost : host = host' := part_eq_of_isSome_eq hone.1 hanother.1 hopen.1
  have hport : port = port' := part_eq_of_isSome_eq hone.2 hanother.2 hopen.2
  rw [hhost, hport]

/-- The chain of a scope holds the scopes that cover it. -/
lemma mem_chain_iff {one scope : Scope} : one ∈ scope.chain ↔ one.Covers scope := by
  obtain ⟨host, port⟩ := one
  obtain ⟨host', port'⟩ := scope
  simp only [chain, Covers, List.mem_cons, List.not_mem_nil, or_false, mk.injEq]
  tauto

/-- The chain of a scope goes from the more to the less specific, except that the scope itself
comes again if its host is open. -/
lemma pairwise_chain (scope : Scope) :
    scope.chain.Pairwise fun a b => b.rank ≤ a.rank ∨ b = scope := by
  obtain ⟨host, port⟩ := scope
  cases host <;> cases port <;> simp [chain, rank]

end Scope

namespace Provider

/-- The credential that is registered for exactly a scope. -/
def registered? (provider : Provider) (scope : Scope) : Option Credential :=
  provider.credentials.lookup scope

/-- What is found in a list after a credential was placed into it. -/
lemma lookup_place (scope other : Scope) (credential : Credential)
    (credentials : List (Scope × Credential)) :
    (place scope credential credentials).lookup other =
      if other = scope then some credential else credentials.lookup other := by
  induction credentials with
  | nil => by_cases h : other = scope <;> simp [place, h]
  | cons first rest ih =>
    obtain ⟨key, old⟩ := first
    rw [place]
    by_cases hkey : key = scope
    · subst hkey
      by_cases h : other = key
      · simp [h]
      · simp [List.lookup_cons, h, beq_false_of_ne h]
    · rw [if_neg hkey, List.lookup_cons, List.lookup_cons, ih]
      by_cases h : other = key
      · simp [h, hkey]
      · simp [beq_false_of_ne h]

/-- Setting a credential registers it for its scope and leaves all others alone. -/
lemma registered?_set (provider : Provider) (scope other : Scope) (credential : Credential) :
    (provider.set scope credential).registered? other =
      if other = scope then some credential else provider.registered? other :=
  lookup_place scope other credential provider.credentials

/-- What is registered for a scope stands in the list. -/
lemma mem_of_registered?_eq_some {provider : Provider} {scope : Scope} {credential : Credential}
    (h : provider.registered? scope = some credential) :
    (scope, credential) ∈ provider.credentials := by
  obtain ⟨before, after, hsplit, -⟩ := List.lookup_eq_some_iff.mp h
  rw [hsplit]
  exact List.mem_append_right before List.mem_cons_self

/-- Where nothing is registered, no entry of the list has the scope. -/
lemma fst_ne_of_registered?_eq_none {provider : Provider} {scope : Scope}
    (h : provider.registered? scope = none) {item : Scope × Credential}
    (hitem : item ∈ provider.credentials) : item.1 ≠ scope := by
  rintro rfl
  have hne := List.lookup_eq_none_iff.mp h item hitem
  simp at hne

/-! ### The best score -/

/-- The better of two candidates stays below a bound that both stay below. -/
lemma better_lt {n : Nat} {one other : Option (Nat × Credential)}
    (hone : ∀ found ∈ one, found.1 < n) (hother : ∀ found ∈ other, found.1 < n) :
    ∀ found ∈ better one other, found.1 < n := by
  cases one with
  | none => exact hother
  | some a =>
    cases other with
    | none => exact hone
    | some b =>
      rw [better]
      split
      · exact hone
      · exact hother

/-- A candidate is better than those below it. -/
lemma better_some_of_lt {best : Nat × Credential} {other : Option (Nat × Credential)}
    (h : ∀ found ∈ other, found.1 < best.1) : better (some best) other = some best := by
  cases other with
  | none => rfl
  | some b => rw [better, if_pos (h b rfl)]

/-- A candidate takes the place of those below it. -/
lemma better_of_lt_some {best : Nat × Credential} {one : Option (Nat × Credential)}
    (h : ∀ found ∈ one, found.1 < best.1) : better one (some best) = some best := by
  cases one with
  | none => rfl
  | some a =>
    have hlt : ¬ best.1 < a.1 := Nat.lt_asymm (h a rfl)
    rw [better, if_neg hlt]

/-- The candidate that an entry of a list is for a scope. -/
def candidate? (scope : Scope) (item : Scope × Credential) : Option (Nat × Credential) :=
  (item.1.score? scope).map (·, item.2)

/-- The best of some candidates, one of which is given beforehand. -/
def bestOf (scope : Scope) (start : Option (Nat × Credential))
    (items : List (Scope × Credential)) : Option (Nat × Credential) :=
  items.foldl (fun found item => better found (candidate? scope item)) start

/-- The best of candidates below a bound is below it. -/
lemma bestOf_lt {scope : Scope} {n : Nat} {items : List (Scope × Credential)}
    (hitems : ∀ item ∈ items, ∀ found ∈ candidate? scope item, found.1 < n)
    {start : Option (Nat × Credential)} (hstart : ∀ found ∈ start, found.1 < n) :
    ∀ found ∈ bestOf scope start items, found.1 < n := by
  induction items generalizing start with
  | nil => exact hstart
  | cons item rest ih =>
    obtain ⟨hitem, hrest⟩ := List.forall_mem_cons.mp hitems
    exact ih hrest (better_lt hstart hitem)

/-- A candidate stays the best if all others are below it. -/
lemma bestOf_some_of_lt {scope : Scope} {best : Nat × Credential}
    {items : List (Scope × Credential)}
    (hitems : ∀ item ∈ items, ∀ found ∈ candidate? scope item, found.1 < best.1) :
    bestOf scope (some best) items = some best := by
  induction items with
  | nil => rfl
  | cons item rest ih =>
    obtain ⟨hitem, hrest⟩ := List.forall_mem_cons.mp hitems
    rw [bestOf, List.foldl_cons, better_some_of_lt hitem]
    exact ih hrest

/-- Where no entry of a list covers a scope, there is no best one. -/
lemma best?_eq_none {scope : Scope} {items : List (Scope × Credential)}
    (h : ∀ item ∈ items, ¬ item.1.Covers scope) : best? items scope = none := by
  induction items with
  | nil => rfl
  | cons item rest ih =>
    obtain ⟨hitem, hrest⟩ := List.forall_mem_cons.mp h
    have hscore : item.1.score? scope = none :=
      Option.eq_none_iff_forall_ne_some.mpr fun n hn => hitem (Scope.score?_eq_some_iff.mp hn).1
    have hcandidate : candidate? scope item = none := by
      rw [candidate?, hscore, Option.map_none]
    change (bestOf scope (better none (candidate? scope item)) rest).map (·.2) = none
    rw [hcandidate]
    exact ih hrest

/-- An entry that covers a scope more specifically than all others is the best one. -/
lemma best?_eq_some {scope key : Scope} {credential : Credential}
    {items : List (Scope × Credential)} (hmem : (key, credential) ∈ items)
    (hcovers : key.Covers scope) (hnodup : (items.map (·.1)).Nodup)
    (hothers : ∀ item ∈ items, item.1 ≠ key → item.1.Covers scope → item.1.rank < key.rank) :
    best? items scope = some credential := by
  obtain ⟨before, after, rfl⟩ := List.append_of_mem hmem
  have hkey : candidate? scope (key, credential) = some (key.rank, credential) := by
    rw [candidate?, Scope.score?_eq_some_iff.mpr ⟨hcovers, rfl⟩, Option.map_some]
  have hbelow : ∀ item ∈ before ++ (key, credential) :: after, item.1 ≠ key →
      ∀ found ∈ candidate? scope item, found.1 < key.rank := by
    intro item hitem hne found hfound
    obtain ⟨n, hn, rfl⟩ := Option.map_eq_some_iff.mp hfound
    obtain ⟨hitemCovers, rfl⟩ := Scope.score?_eq_some_iff.mp hn
    exact hothers item hitem hne hitemCovers
  rw [List.map_append, List.map_cons, List.nodup_middle, List.nodup_cons,
    ← List.map_append] at hnodup
  have hne : ∀ item ∈ before ++ after, item.1 ≠ key := by
    intro item hitem heq
    have hkeys : item.1 ∈ (before ++ after).map (·.1) := List.mem_map_of_mem hitem
    rw [heq] at hkeys
    exact hnodup.1 hkeys
  have hbefore : ∀ item ∈ before, ∀ found ∈ candidate? scope item, found.1 < key.rank :=
    fun item hitem => hbelow item (List.mem_append_left _ hitem)
      (hne item (List.mem_append_left _ hitem))
  have hafter : ∀ item ∈ after, ∀ found ∈ candidate? scope item, found.1 < key.rank :=
    fun item hitem => hbelow item (List.mem_append_right _ (List.mem_cons_of_mem _ hitem))
      (hne item (List.mem_append_right _ hitem))
  change (bestOf scope none (before ++ (key, credential) :: after)).map (·.2) = some credential
  have hstart := bestOf_lt hbefore fun found hfound => absurd hfound (Option.not_mem_none found)
  rw [bestOf, List.foldl_append, List.foldl_cons, hkey, better_of_lt_some hstart]
  have hend : bestOf scope (some (key.rank, credential)) after = some (key.rank, credential) :=
    bestOf_some_of_lt hafter
  rw [bestOf] at hend
  rw [hend, Option.map_some]

/-- The best entry for a scope is the first of its chain that something is registered for. -/
lemma best?_eq_findSome? (provider : Provider) (scope : Scope) :
    best? provider.credentials scope = scope.chain.findSome? provider.registered? := by
  cases hfound : scope.chain.findSome? provider.registered? with
  | none =>
    refine best?_eq_none fun item hitem hcovers => ?_
    have hnone := List.findSome?_eq_none_iff.mp hfound item.1 (Scope.mem_chain_iff.mpr hcovers)
    exact fst_ne_of_registered?_eq_none hnone hitem rfl
  | some credential =>
    obtain ⟨before, key, after, hsplit, hkey, hbefore⟩ := List.findSome?_eq_some_iff.mp hfound
    have hmem : key ∈ scope.chain := by
      rw [hsplit]
      exact List.mem_append_right _ List.mem_cons_self
    refine best?_eq_some (mem_of_registered?_eq_some hkey) (Scope.mem_chain_iff.mp hmem)
      provider.distinct fun item hitem hne hcovers => ?_
    -- What covers the scope is in the chain, but not in front of `key`, since nothing is registered
    -- for what stands there.
    have hnotBefore : item.1 ∉ before := fun h =>
      fst_ne_of_registered?_eq_none (hbefore item.1 h) hitem rfl
    have hafter : item.1 ∈ after := by
      have hchain := Scope.mem_chain_iff.mpr hcovers
      rw [hsplit, List.mem_append, List.mem_cons] at hchain
      exact (hchain.resolve_left hnotBefore).resolve_left hne
    have horder := scope.pairwise_chain
    rw [hsplit] at horder
    have hle : item.1.rank ≤ key.rank := by
      have hpair := (List.pairwise_cons.mp (List.pairwise_append.mp horder).2.1).1 item.1 hafter
      refine hpair.resolve_right fun heq => ?_
      cases before with
      | nil => exact hne (heq.trans (List.cons.inj hsplit).1)
      | cons first rest =>
        have hfirst : scope = first := (List.cons.inj hsplit).1
        exact hnotBefore (heq.trans hfirst ▸ List.mem_cons_self)
    exact Nat.lt_of_le_of_ne hle fun heq =>
      hne (hcovers.eq_of_rank_eq (Scope.mem_chain_iff.mp hmem) heq)

/-- A provider answers with the first of the chain of a scope that something is registered for. -/
lemma get?_eq_findSome? (provider : Provider) (scope : Scope) :
    provider.get? scope = scope.chain.findSome? provider.registered? := by
  rw [get?, best?_eq_findSome?]
  -- The chain starts with the scope itself, so to look for its own credential first is no detour.
  change (provider.registered? scope).or _ = _
  rw [Scope.chain, List.findSome?_cons]
  cases provider.registered? scope with
  | none => rfl
  | some credential => rfl

/-- What a provider answers is registered for a scope that covers the one asked for. -/
lemma exists_covers_of_get?_eq_some {provider : Provider} {scope : Scope} {credential : Credential}
    (h : provider.get? scope = some credential) :
    ∃ key, key.Covers scope ∧ provider.registered? key = some credential := by
  rw [get?_eq_findSome?] at h
  obtain ⟨key, hmem, hkey⟩ := List.exists_of_findSome?_eq_some h
  exact ⟨key, Scope.mem_chain_iff.mp hmem, hkey⟩

end Provider

end ScopedAuth
