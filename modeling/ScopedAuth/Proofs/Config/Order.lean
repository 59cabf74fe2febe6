import ScopedAuth.Proofs.Config.Refusal

/-!
# The order of the file and its disabled entries do not matter

A configuration may list its credentials in any order, and what it lists as disabled may as well be
left out: its authenticators are the same (`Config.alike_of_perm_of_trims`).

The stores do not give this by themselves, since they keep the last of several entries for a target.
What gives it is that no target is listed twice for a family.  An enabled login is then the one that
counts for its target simply because it is listed (`Config.login?_eq_some_iff`), and to be listed
does not depend on the order.
-/

namespace ScopedAuth

/-- Maps that follow logs in which the same counts are equal, if the view tells values apart. -/
lemma TextMap.Follows.eq_of_last?_eq {α β : Type} {view : α → β} (hview : Function.Injective view)
    {one other : TextMap α} {log log' : WriteLog β} (hone : Follows view one log)
    (hother : Follows view other log') (h : ∀ text, log.last? text = log'.last? text) :
    one = other := by
  refine ext_get? fun text => Option.map_injective hview ?_
  rw [hone text, hother text, h text]

/-- Two authenticators with the same history are equal. -/
lemma Authenticator.Matches.eq_of_last?_eq {family : Family} {one other : Authenticator family}
    {log log' : WriteLog Entry} {fallback : Fallback} (hone : one.Matches log fallback)
    (hother : other.Matches log' fallback) (h : ∀ text, log.last? text = log'.last? text) :
    one = other := by
  have hitems : one.store.items = other.store.items :=
    hone.store_follows.eq_of_last?_eq Subtype.val_injective hother.store_follows h
  have hfallback : one.fallback = other.fallback := hone.fallback_eq.trans hother.fallback_eq.symm
  obtain ⟨⟨items⟩, fallback⟩ := one
  obtain ⟨⟨items'⟩, fallback'⟩ := other
  simp_all

/-- Two pairs of authenticators present the same to every target, store something for the same
targets and have as many entries. -/
structure Authenticators.Alike (one other : Authenticators) : Prop where
  resolve_eq : ∀ target, one.resolve target = other.resolve target
  targets_eq : ∀ family, one.targets family = other.targets family
  size_eq : one.size = other.size

/-- Authenticators are like themselves. -/
lemma Authenticators.Alike.refl (auths : Authenticators) : auths.Alike auths :=
  ⟨fun _ => rfl, fun _ => rfl, rfl⟩

namespace Config

/-! ### What is enabled -/

/-- Two configurations enable the same logins for the same targets and families. -/
def EnableSame (one other : Config) : Prop :=
  ∀ item : ScopedLogin, item.login.isSome = true →
    (item ∈ one.credentials ↔ item ∈ other.credentials)

/-- Where no target is listed twice for a family, the login that counts is the one listed. -/
lemma login?_eq_some_iff {config : Config} (hnodup : (config.credentials.map key).Nodup)
    {family : Family} {text : String} {login : Login} :
    config.login? family text = some login ↔ ⟨text, family, some login⟩ ∈ config.credentials := by
  constructor
  · intro h
    obtain ⟨item, hmem, rfl, rfl, hlogin⟩ := exists_of_login?_eq_some h
    rw [← hlogin]
    exact hmem
  · intro hmem
    exact login?_eq_some_of_mem hnodup hmem rfl

/-- Configurations that enable the same logins have the same one for a target. -/
lemma EnableSame.login?_eq {one other : Config} (h : EnableSame one other)
    (hone : (one.credentials.map key).Nodup) (hother : (other.credentials.map key).Nodup)
    (family : Family) (text : String) : one.login? family text = other.login? family text := by
  refine Option.ext fun login => ?_
  rw [login?_eq_some_iff hone, login?_eq_some_iff hother]
  exact h _ rfl

/-- Configurations that enable the same logins and have the same fallback have the same
authenticators. -/
lemma EnableSame.authenticators_eq {one other : Config} (h : EnableSame one other)
    (hfallback : one.fallback = other.fallback) {auths auths' : Authenticators}
    (hone : one.authenticators = .ok auths) (hother : other.authenticators = .ok auths') :
    auths = auths' := by
  obtain ⟨hnodup, fallback, hbuild, hbasic, hntlm⟩ := matches_of_authenticators hone
  obtain ⟨hnodup', fallback', hbuild', hbasic', hntlm'⟩ := matches_of_authenticators hother
  have hsame : fallback = fallback' := by
    rw [hfallback, hbuild'] at hbuild
    exact (Except.ok.inj hbuild).symm
  subst hsame
  have hlast : ∀ family text, (entries family one.credentials).last? text =
      (entries family other.credentials).last? text := by
    intro family text
    rw [last?_entries hnodup, last?_entries hnodup', h.login?_eq hnodup hnodup']
  have hbasicEq : auths.basic = auths'.basic := hbasic.eq_of_last?_eq hbasic' (hlast .basic)
  have hntlmEq : auths.ntlm = auths'.ntlm := hntlm.eq_of_last?_eq hntlm' (hlast .ntlm)
  obtain ⟨basic, ntlm⟩ := auths
  obtain ⟨basic', ntlm'⟩ := auths'
  simp_all

/-! ### Other orders -/

/-- A sound list is sound in every order. -/
lemma Sound.of_perm {items items' : List ScopedLogin} (h : Sound items)
    (hperm : items.Perm items') : Sound items' := by
  refine ⟨fun item hitem => h.1 item (hperm.mem_iff.mpr hitem), ?_⟩
  exact (hperm.map key).nodup_iff.mp h.2

/-- Configurations with the same credentials in another order enable the same logins. -/
lemma enableSame_of_perm {one other : Config} (h : one.credentials.Perm other.credentials) :
    EnableSame one other :=
  fun _ _ => h.mem_iff

/-! ### Without disabled items -/

/-- One list comes of another by leaving out some of its disabled items. -/
inductive Trims : List ScopedLogin → List ScopedLogin → Prop
  | nil : Trims [] []
  | keep (item : ScopedLogin) {kept items : List ScopedLogin} (h : Trims kept items) :
    Trims (item :: kept) (item :: items)
  | drop (item : ScopedLogin) {kept items : List ScopedLogin} (hdisabled : item.login = none)
    (h : Trims kept items) : Trims kept (item :: items)

/-- What is left is part of the list. -/
lemma Trims.sublist {kept items : List ScopedLogin} (h : Trims kept items) :
    kept.Sublist items := by
  induction h with
  | nil => exact List.Sublist.slnil
  | keep item _ ih => exact ih.cons_cons item
  | drop item _ _ ih => exact ih.cons item

/-- What is enabled is left. -/
lemma Trims.mem_iff {kept items : List ScopedLogin} (h : Trims kept items) {item : ScopedLogin}
    (henabled : item.login.isSome = true) : item ∈ kept ↔ item ∈ items := by
  induction h with
  | nil => exact Iff.rfl
  | keep other _ ih => rw [List.mem_cons, List.mem_cons, ih]
  | drop other hdisabled _ ih =>
    rw [List.mem_cons, ih]
    constructor
    · exact Or.inr
    · rintro (rfl | hmem)
      · rw [hdisabled] at henabled
        cases henabled
      · exact hmem

/-- A part of a sound list is sound. -/
lemma Sound.of_sublist {kept items : List ScopedLogin} (h : Sound items)
    (hsub : kept.Sublist items) : Sound kept :=
  ⟨fun item hitem => h.1 item (hsub.subset hitem), h.2.sublist (hsub.map key)⟩

/-- Of two configurations with the same fallback and the same credentials in whatever order, one can
be carried out if the other can, and then their authenticators present the same to every target,
store something for the same targets and have as many entries.  The same holds of a configuration
that can be carried out and any other that comes of it by leaving out disabled items. -/
theorem alike_of_perm_of_trims (one : Config) :
    (∀ other : Config, one.fallback = other.fallback → one.credentials.Perm other.credentials →
      ((∃ auths, one.authenticators = .ok auths) ↔ ∃ auths, other.authenticators = .ok auths) ∧
      ∀ auths auths', one.authenticators = .ok auths → other.authenticators = .ok auths' →
        auths.Alike auths') ∧
    (∀ auths kept, one.authenticators = .ok auths → Trims kept one.credentials →
      ∃ auths', { one with credentials := kept }.authenticators = .ok auths' ∧
        auths.Alike auths') := by
  constructor
  · intro other hfallback hperm
    constructor
    · rw [exists_authenticators_eq_ok_iff, exists_authenticators_eq_ok_iff, hfallback]
      refine and_congr_right fun _ => ⟨fun h => h.of_perm hperm, fun h => h.of_perm hperm.symm⟩
    · intro auths auths' hone hother
      rw [(enableSame_of_perm hperm).authenticators_eq hfallback hone hother]
      exact .refl auths'
  · intro auths kept hone htrims
    obtain ⟨hpatterns, hsound⟩ := (exists_authenticators_eq_ok_iff one).mp ⟨auths, hone⟩
    let shorter : Config := { one with credentials := kept }
    have hkept : Sound shorter.credentials := hsound.of_sublist htrims.sublist
    have hshorter : ∃ auths', shorter.authenticators = .ok auths' :=
      exists_authenticators_eq_ok hpatterns hkept
    obtain ⟨auths', hother⟩ := hshorter
    have hsame : EnableSame one shorter := fun item henabled => (htrims.mem_iff henabled).symm
    refine ⟨auths', hother, ?_⟩
    rw [hsame.authenticators_eq rfl hone hother]
    exact .refl auths'

/-- The configuration `bothFamilies`, listed from its end, and without one of its disabled items. -/
theorem alike_of_perm_of_trims_bothFamilies :
    let backwards : Config :=
      { bothFamilies with credentials := bothFamilies.credentials.reverse }
    let shorter : Config :=
      { bothFamilies with credentials := bothFamilies.credentials.dropLast }
    ∃ auths auths' auths'', bothFamilies.authenticators = .ok auths ∧
      backwards.authenticators = .ok auths' ∧ shorter.authenticators = .ok auths'' ∧
      auths.Alike auths' ∧ auths.Alike auths'' ∧
      auths.targets .basic = ["https://a.example/", "https://b.example/"] := by
  intro backwards shorter
  obtain ⟨hperm, htrims⟩ := alike_of_perm_of_trims bothFamilies
  have htargets : bothFamilies.authenticators.map (·.targets .basic) =
      .ok ["https://a.example/", "https://b.example/"] := by decide +kernel
  cases hauths : bothFamilies.authenticators with
  | error error =>
    rw [hauths] at htargets
    cases htargets
  | ok auths =>
    rw [hauths] at htargets
    obtain ⟨hiff, halike⟩ := hperm backwards rfl (List.reverse_perm _).symm
    obtain ⟨auths', hauths'⟩ := hiff.mp ⟨auths, hauths⟩
    obtain ⟨auths'', hauths'', halike'⟩ := htrims auths _ hauths
      (.keep _ (.keep _ (.keep _ (.keep _ (.drop _ rfl .nil)))))
    exact ⟨auths, auths', auths'', rfl, hauths', hauths'', halike auths auths' hauths hauths',
      halike', Except.ok.inj htargets⟩

end Config

end ScopedAuth
