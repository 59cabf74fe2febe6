import ScopedAuth.Proofs.Authenticator.History
import ScopedAuth.Proofs.Unicode.Uppercase

/-!
# What an NTLM credential is made of makes it again

A stored entry keeps its fields as they are given; the credential that it is presented as has
workstation and domain in upper case.  To store what the credential says of itself gives the same
credential once more (`Entry.presents_normalized`), since upper case is final, and so does an entry
whose workstation and domain are written with letters of the other case.
-/

namespace ScopedAuth

/-- Whatever authenticator of the family an entry is stored in, and for which target, it is kept as
it is, and the target is then presented the credential. -/
def Entry.Presents (family : Family) (entry : Entry) (credential : Credential) : Prop :=
  ∀ (auth : Authenticator family) (target : Target), ∃ store previous,
    auth.store.insert target entry = .ok (store, previous) ∧ store.get? target = some entry ∧
      ({ auth with store } : Authenticator family).resolve target = some credential

/-- Identities with the same user, whose workstations and domains differ at most in the case of
their letters in ASCII. -/
structure Identity.SameUpToCase (one other : Identity) : Prop where
  username_eq : one.get? 0 = other.get? 0
  workstation_eq : (one.get? 1).map Scope.lower = (other.get? 1).map Scope.lower
  domain_eq : (one.get? 2).map Scope.lower = (other.get? 2).map Scope.lower

/-- An entry with enough fields is presented as the credential that it gives. -/
lemma Entry.Yields.presents {family : Family} {entry : Entry} {credential : Credential}
    (h : Entry.Yields family entry credential) (hsize : family.arity ≤ entry.identity.size) :
    Entry.Presents family entry credential := by
  intro auth target
  have hget : (auth.store.put target ⟨entry, hsize⟩).get? target = some entry := by
    rw [Store.get?_put, if_pos rfl]
  refine ⟨_, _, Store.insert_of_le hsize auth.store target, hget, ?_⟩
  rw [Authenticator.resolve, hget]
  exact h.credential?_eq

/-- The entry of a user, a workstation and a domain is presented as the credential of these with
the latter two in upper case; further fields do not matter. -/
lemma Entry.presents_ntlm (username workstation domain : String) (others : List String)
    (password : Password) :
    Entry.Presents .ntlm ⟨⟨username :: workstation :: domain :: others⟩, password⟩
      (.ntlm ⟨username, password.toSecret, some (Unicode.upper workstation),
        some (Unicode.upper domain)⟩) := by
  refine (Entry.Yields.ntlm username workstation domain others password.text).presents ?_
  exact Nat.le_add_left 3 others.length

/-- An identity with a user, a workstation and a domain. -/
lemma Identity.exists_fields_eq {identity : Identity} (h : Family.ntlm.arity ≤ identity.size) :
    ∃ username workstation domain others,
      identity.fields = username :: workstation :: domain :: others := by
  obtain ⟨fields⟩ := identity
  match fields, h with
  | username :: workstation :: domain :: others, _ =>
    exact ⟨username, workstation, domain, others, rfl⟩

/-- Texts that are the same but for the case of letters in ASCII are the same in upper case. -/
lemma Unicode.upper_eq_of_lower_eq {s t : String} (h : Scope.lower s = Scope.lower t) :
    upper s = upper t :=
  upper_eq_of_map_toLower_eq (String.ofList_injective h)

/-- An identity that agrees with a complete one is complete. -/
lemma Identity.SameUpToCase.exists_fields_eq {identity other : Identity}
    (h : identity.SameUpToCase other) {username workstation domain : String} {others : List String}
    (hfields : identity.fields = username :: workstation :: domain :: others) :
    ∃ workstation' domain' others', other.fields = username :: workstation' :: domain' :: others' ∧
      Unicode.upper workstation' = Unicode.upper workstation ∧
      Unicode.upper domain' = Unicode.upper domain := by
  obtain ⟨fields⟩ := identity
  obtain ⟨fields'⟩ := other
  obtain rfl : fields = _ := hfields
  obtain ⟨husername, hworkstation, hdomain⟩ := h
  match fields' with
  | [] => exact nomatch husername
  | [_] => exact nomatch hworkstation
  | [_, _] => exact nomatch hdomain
  | username' :: workstation' :: domain' :: others' =>
    obtain rfl : username = username' := Option.some.inj husername
    exact ⟨workstation', domain', others', rfl,
      Unicode.upper_eq_of_lower_eq (Option.some.inj hworkstation).symm,
      Unicode.upper_eq_of_lower_eq (Option.some.inj hdomain).symm⟩

/-- The principal of a credential with a domain in upper case. -/
lemma NtlmCredential.principal_upper (username : String) (password : Secret)
    (workstation : Option String) (domain : String) :
    (⟨username, password, workstation, some (Unicode.upper domain)⟩ : NtlmCredential).principal =
      if domain = "" then username else Unicode.upper domain ++ "\\" ++ username := by
  change (if Unicode.upper domain = "" then _ else _) = _
  by_cases h : domain = ""
  · rw [if_pos h, if_pos (Unicode.upper_eq_empty_iff.mpr h)]
  · rw [if_neg h, if_neg (mt Unicode.upper_eq_empty_iff.mp h)]

/-- An identity with at least a user, a workstation and a domain is stored as it is given, and
presented as the credential with the latter two in upper case.  What the credential says of itself,
stored as a new entry, is presented as the very same credential, and so is an identity that differs
from the given one in the case of letters in ASCII, but not in the user.  The principal is the user
behind the domain, or the user alone if the domain that is stored is empty. -/
theorem Entry.presents_normalized {identity : Identity}
    (h : Family.ntlm.arity ≤ identity.size) (password : Password) :
    ∃ (username workstation domain : String) (others : List String) (credential : NtlmCredential),
      identity.fields = username :: workstation :: domain :: others ∧
      credential = ⟨username, password.toSecret, some (Unicode.upper workstation),
        some (Unicode.upper domain)⟩ ∧
      Entry.Presents .ntlm ⟨identity, password⟩ (.ntlm credential) ∧
      (∀ w d, credential.workstation = some w → credential.domain = some d →
        Entry.Presents .ntlm ⟨⟨[credential.username, w, d]⟩, .ofSecret credential.password⟩
          (.ntlm credential)) ∧
      (∀ other : Identity, identity.SameUpToCase other →
        Entry.Presents .ntlm ⟨other, password⟩ (.ntlm credential)) ∧
      credential.principal =
        if domain = "" then username else Unicode.upper domain ++ "\\" ++ username := by
  obtain ⟨username, workstation, domain, others, hfields⟩ := Identity.exists_fields_eq h
  obtain ⟨fields⟩ := identity
  obtain rfl : fields = _ := hfields
  refine ⟨username, workstation, domain, others, _, rfl, rfl,
    presents_ntlm username workstation domain others password, ?_, ?_,
    NtlmCredential.principal_upper username _ _ domain⟩
  · rintro w d hw hd
    obtain rfl := Option.some.inj hw
    obtain rfl := Option.some.inj hd
    have hagain := presents_ntlm username (Unicode.upper workstation) (Unicode.upper domain) []
      (.ofSecret password.toSecret)
    rw [Unicode.upper_upper, Unicode.upper_upper] at hagain
    exact hagain
  · rintro ⟨fields'⟩ hsame
    obtain ⟨workstation', domain', others', hfields', hworkstation, hdomain⟩ :=
      hsame.exists_fields_eq rfl
    obtain rfl : fields' = _ := hfields'
    rw [← hworkstation, ← hdomain]
    exact presents_ntlm username workstation' domain' others' password

/-- A sharp s becomes two letters in upper case, and so does a ligature; a further field is left
aside. -/
theorem Entry.presents_normalized_sharpS :
    Family.ntlm.arity ≤ (⟨["carol", "straße", "büroﬁx", "unused"]⟩ : Identity).size ∧
    Entry.Presents .ntlm ⟨⟨["carol", "straße", "büroﬁx", "unused"]⟩, ⟨"pw"⟩⟩
      (.ntlm ⟨"carol", ⟨"pw"⟩, some "STRASSE", some "BÜROFIX"⟩) ∧
    Entry.Presents .ntlm ⟨⟨["carol", "STRASSE", "BÜROFIX"]⟩, ⟨"pw"⟩⟩
      (.ntlm ⟨"carol", ⟨"pw"⟩, some "STRASSE", some "BÜROFIX"⟩) ∧
    Entry.Presents .ntlm ⟨⟨["carol", "STRAße", "BüRoﬁX"]⟩, ⟨"pw"⟩⟩
      (.ntlm ⟨"carol", ⟨"pw"⟩, some "STRASSE", some "BÜROFIX"⟩) ∧
    (⟨"carol", ⟨"pw"⟩, some "STRASSE", some "BÜROFIX"⟩ : NtlmCredential).principal =
      "BÜROFIX\\carol" := by
  have hsize : Family.ntlm.arity ≤
      (⟨["carol", "straße", "büroﬁx", "unused"]⟩ : Identity).size := by decide
  have hworkstation : Unicode.upper "straße" = "STRASSE" := by decide +kernel
  have hdomain : Unicode.upper "büroﬁx" = "BÜROFIX" := by decide +kernel
  obtain ⟨_, _, _, _, _, hfields, rfl, hfirst, hagain, hcase, hprincipal⟩ :=
    Entry.presents_normalized hsize ⟨"pw"⟩
  simp only [List.cons.injEq] at hfields
  obtain ⟨rfl, rfl, rfl, rfl⟩ := hfields
  rw [hworkstation, hdomain] at hfirst hagain hcase hprincipal
  have hsame : Identity.SameUpToCase ⟨["carol", "straße", "büroﬁx", "unused"]⟩
      ⟨["carol", "STRAße", "BüRoﬁX"]⟩ :=
    ⟨rfl, by decide, by decide⟩
  exact ⟨hsize, hfirst, hagain _ _ rfl rfl, hcase _ hsame, hprincipal⟩

end ScopedAuth
