import ScopedAuth.Proofs.Provider.Confinement
import ScopedAuth.Proofs.Provider.Precedence

/-!
# What an application changes

An authenticator that is applied for a target hands one credential to the provider, under the scope
of the target, or nothing at all (`Authenticator.apply_frame`).  Whoever asks the provider for the
host and the port of the target then gets this credential, since nothing is more specific than the
scope itself, and whoever asks for something that the scope does not cover gets what was there.
-/

namespace ScopedAuth

namespace Provider

/-- A scope that nothing is registered for is placed behind the others, and one that something is
registered for stays where it is. -/
lemma length_place (scope : Scope) (credential : Credential)
    (credentials : List (Scope × Credential)) :
    (place scope credential credentials).length =
      if (credentials.lookup scope).isSome then credentials.length else credentials.length + 1 := by
  induction credentials with
  | nil => rfl
  | cons first rest ih =>
    obtain ⟨key, old⟩ := first
    rw [place, List.lookup_cons]
    by_cases hkey : key = scope
    · have hself : (scope == key) = true := beq_iff_eq.mpr hkey.symm
      rw [if_pos hkey, hself]
      rfl
    · have hother : (scope == key) = false := beq_false_of_ne (Ne.symm hkey)
      rw [if_neg hkey, hother, List.length_cons, ih]
      split
      · rfl
      · rfl

/-- A provider differs from another one in the credential for a scope, and in nothing else. -/
structure Sets (before after : Provider) (scope : Scope) (credential : Credential) : Prop where
  registered?_eq : ∀ key,
    after.registered? key = if key = scope then some credential else before.registered? key
  size_eq :
    after.size = if (before.registered? scope).isSome then before.size else before.size + 1
  get?_eq_of_not_covers : ∀ query, ¬ scope.Covers query → after.get? query = before.get? query
  get?_eq : after.get? scope = some credential

/-- To set a credential is to change the one for its scope, whatever else is registered. -/
lemma sets_set (provider : Provider) (scope : Scope) (credential : Credential) :
    Sets provider (provider.set scope credential) scope credential := by
  refine ⟨fun key => registered?_set provider scope key credential,
    length_place scope credential provider.credentials, ?_, ?_⟩
  · intro query hquery
    refine get?_congr fun key hkey => ?_
    have hne : key ≠ scope := fun heq => hquery (heq ▸ hkey)
    rw [registered?_set, if_neg hne]
  · have hself : (provider.set scope credential).registered? scope = some credential := by
      rw [registered?_set, if_pos rfl]
    rw [get?_eq_orElse, hself]
    rfl

/-- Of two credentials that are set for the same scope the later one takes the place of the
earlier. -/
lemma Sets.trans {before middle after : Provider} {scope : Scope} {earlier later : Credential}
    (h : Sets before middle scope earlier) (h' : Sets middle after scope later) :
    Sets before after scope later := by
  refine ⟨fun key => ?_, ?_, fun query hquery => ?_, h'.get?_eq⟩
  · rw [h'.registered?_eq, h.registered?_eq]
    split
    · rfl
    · rfl
  · have hsome : (middle.registered? scope).isSome = true := by
      rw [h.registered?_eq, if_pos rfl]
      rfl
    rw [h'.size_eq, if_pos hsome, h.size_eq]
  · rw [h'.get?_eq_of_not_covers query hquery, h.get?_eq_of_not_covers query hquery]

end Provider

/-- Hosts that are the same but for the case of their letters make the same scope. -/
lemma Scope.make_congr {host other : String} (h : lower host = lower other)
    (port : Option Url.Port) : make host port = make other port := by
  rw [make, make, h]

/-- An application succeeds exactly if the target has a scope and resolves to a credential.  If it
does not, the provider stays as it is.  If it does, the credential for the scope of the target is
set and no other: at most one more is held, and what the scope does not cover is answered as before.
The host of the target, written with letters of either case, and its port are then answered with the
credential that the target resolves to, whatever was registered before. -/
theorem Authenticator.apply_frame {family : Family} (auth : Authenticator family)
    (provider : Provider) (target : Target) :
    ((auth.apply provider target).2 = true ↔
      (Scope.ofTarget? target).isSome = true ∧ (auth.resolve target).isSome = true) ∧
    ((auth.apply provider target).2 = false → (auth.apply provider target).1 = provider) ∧
    ((auth.apply provider target).2 = true → ∃ host scope credential,
      target.host? = some host ∧ Scope.ofTarget? target = some scope ∧
      auth.resolve target = some credential ∧
      Provider.Sets provider (auth.apply provider target).1 scope credential ∧
      ∀ name, Scope.lower name = Scope.lower host →
        (auth.apply provider target).1.get? (.make name target.port?) = some credential) := by
  rcases auth.apply_cases provider target with
    ⟨scope, credential, hscope, hcredential, happly⟩ | ⟨hnone, happly⟩
  · rw [happly, hscope, hcredential]
    refine ⟨iff_of_true rfl ⟨rfl, rfl⟩, (nomatch ·), fun _ => ?_⟩
    obtain ⟨host, hhost, rfl⟩ := Scope.ofTarget?_eq_some_iff.mp hscope
    have hsets := Provider.sets_set provider (.make host target.port?) credential
    refine ⟨host, _, credential, hhost, rfl, rfl, hsets, fun name hname => ?_⟩
    rw [Scope.make_congr hname]
    exact hsets.get?_eq
  · rw [happly]
    refine ⟨iff_of_false Bool.false_ne_true ?_, fun _ => rfl, (nomatch ·)⟩
    rintro ⟨hscope, hcredential⟩
    rcases hnone with hnone | hnone
    · rw [hnone] at hscope
      cases hscope
    · rw [hnone] at hcredential
      cases hcredential

/-- An authenticator that has nothing stored and answers for every target. -/
def Authenticator.anywhere : Authenticator .basic :=
  (ofStore .empty).withFallback (.always (.basic ⟨"bob", ⟨"pw"⟩⟩))

/-- The host of `mail://Example.ORG/` keeps its capital letters, and there is no port.  The
credential takes the place of the one for this host alone, while those for everything and for one of
its ports stay.  For a target without a host nothing happens. -/
theorem Authenticator.apply_frame_layered :
    (∃ target : Target, target.text = "mail://Example.ORG/" ∧
      target.host? = some "Example.ORG" ∧ target.port? = none ∧
      (anywhere.apply .layered target).2 = true ∧
      (anywhere.apply .layered target).1.size = 3 ∧
      (anywhere.apply .layered target).1.get? (.make "example.org" none) =
        some (.basic ⟨"bob", ⟨"pw"⟩⟩) ∧
      ¬ (Scope.make "example.org" none).Covers (.make "other.org" (some 80)) ∧
      (anywhere.apply .layered target).1.get? (.make "other.org" (some 80)) =
        some (.basic ⟨"anyone", ⟨"pw"⟩⟩)) ∧
    ∃ target : Target, target.text = "urn:example:realm" ∧
      (anywhere.apply .layered target).2 = false ∧
      (anywhere.apply .layered target).1 = .layered := by
  constructor
  · have hok : (Target.parse "mail://Example.ORG/").map (fun target =>
        (target.host?, target.port?, (Scope.ofTarget? target).isSome)) =
        .ok (some "Example.ORG", none, true) := by decide +kernel
    cases hparse : Target.parse "mail://Example.ORG/" with
    | error error =>
      rw [hparse] at hok
      cases hok
    | ok target =>
      rw [hparse] at hok
      simp only [Except.map, Except.ok.injEq, Prod.mk.injEq] at hok
      obtain ⟨hhost, hport, hscope⟩ := hok
      obtain ⟨hiff, -, hsuccess⟩ := apply_frame anywhere .layered target
      have happly := hiff.mpr ⟨hscope, rfl⟩
      obtain ⟨host, scope, credential, hname, hofTarget, hresolve, hsets, hget⟩ :=
        hsuccess happly
      obtain rfl : host = "Example.ORG" := Option.some.inj (hname.symm.trans hhost)
      obtain rfl : credential = .basic ⟨"bob", ⟨"pw"⟩⟩ := Option.some.inj hresolve.symm
      have hlower : Scope.lower "example.org" = Scope.lower "Example.ORG" := by decide
      obtain rfl : .make "example.org" none = scope := by
        rw [Scope.ofTarget?, hhost, hport, Option.map_some, ← Scope.make_congr hlower] at hofTarget
        exact Option.some.inj hofTarget
      have hother : ¬ (Scope.make "example.org" none).Covers (.make "other.org" (some 80)) := by
        rw [Scope.covers_make_iff]
        decide
      refine ⟨target, Target.text_of_parse hparse, hhost, hport, happly, ?_, ?_, hother, ?_⟩
      · rw [hsets.size_eq]
        decide
      · rw [← hport]
        exact hget "example.org" hlower
      · rw [hsets.get?_eq_of_not_covers _ hother]
        decide
  · have hok : (Target.parse "urn:example:realm").map (fun target =>
        (Scope.ofTarget? target).isSome) = .ok false := by decide +kernel
    cases hparse : Target.parse "urn:example:realm" with
    | error error =>
      rw [hparse] at hok
      cases hok
    | ok target =>
      rw [hparse] at hok
      obtain ⟨hiff, hfailure, -⟩ := apply_frame anywhere .layered target
      have hscope : (Scope.ofTarget? target).isSome = false := Except.ok.inj hok
      have happly : (anywhere.apply .layered target).2 = false := by
        rw [← Bool.not_eq_true, hiff, hscope]
        exact fun h => Bool.false_ne_true h.1
      exact ⟨target, Target.text_of_parse hparse, happly, hfailure happly⟩

end ScopedAuth
