import Mathlib.Data.List.Perm.Basic
import ScopedAuth.Config.Authenticators
import ScopedAuth.Proofs.Authenticator.History

/-!
# What the authenticators of a configuration resolve

The authenticators that a configuration is turned into answer a target as the configuration itself
can be read: with the enabled NTLM login for the text of the target, else with the enabled Basic
login for it, else as the fallback policy says.  `Config.answer` is this reading, and
`resolve_authenticators` says that it is what the two stores and the fallback behind them come to.

The order in the file does not matter for it, since a text is listed at most once for each family
(`nodup_of_readTargets`); a store would otherwise keep the last of several logins.
-/

namespace ScopedAuth

/-! ### The reading of a configuration -/

/-- Whether a text matches a pattern, given as text; what is no pattern matches nothing. -/
def Glob.accepts (pattern text : String) : Bool :=
  match Pattern.parse pattern with
  | .ok pattern => pattern.matches text
  | .error _ => false

/-- The credential that a policy has for the text of a target. -/
def FallbackPolicy.answer : FallbackPolicy → String → Option Credential
  | .none, _ => Option.none
  | .always credential, _ => some credential
  | .patterns items, text => (items.find? fun item => Glob.accepts item.1 text).map (·.2)

namespace Config

/-- The login that a configuration enables for a text in a family. -/
def login? (config : Config) (family : Family) (text : String) : Option Login :=
  config.credentials.findSome? fun item =>
    if item.family = family ∧ item.target = text then item.login else none

/-- The credential that a configuration has for the text of a target. -/
def answer (config : Config) (text : String) : Option Credential :=
  match config.login? .ntlm text with
  | some login =>
    some (.ntlm ⟨login.username, ⟨login.password.text⟩,
      some (Unicode.upper (login.workstation.getD "")),
      some (Unicode.upper (login.domain.getD ""))⟩)
  | none =>
    match config.login? .basic text with
    | some login => some (.basic ⟨login.username, ⟨login.password.text⟩⟩)
    | none => config.fallback.answer text

/-- The texts that a configuration enables a login for in a family, in the order of the file. -/
def enabled (config : Config) (family : Family) : List String :=
  (config.credentials.filter fun item => item.family = family ∧ item.login.isSome = true).map
    (·.target)

end Config

/-- The texts that are stored in a family. -/
def Authenticators.targets (auths : Authenticators) : Family → List String
  | .basic => auths.basic.store.targets
  | .ntlm => auths.ntlm.store.targets

/-! ### Fallbacks -/

/-- A pattern that is added is tried after all others. -/
lemma PatternList.find?_add {list longer : PatternList} {pattern : String}
    {credential : Credential} (h : list.add pattern credential = .ok longer) (target : Target) :
    longer.find? target =
      (list.find? target).or
        (if Glob.accepts pattern target.text then some credential else none) := by
  obtain ⟨parsed, hparsed, h⟩ := bind_eq_ok_iff.mp h
  rw [← Except.ok.inj h, find?, find?, List.find?_append, Glob.accepts, hparsed]
  cases hfound : list.items.find? fun item => item.1.matches target.text with
  | some item => rfl
  | none => by_cases hmatches : parsed.matches target.text = true <;> simp [hmatches]

/-- Patterns that are added one after the other are tried in this order. -/
lemma PatternList.find?_foldlM_add {items : List (String × Credential)} {list longer : PatternList}
    (h : items.foldlM (fun (list : PatternList) (pattern, credential) =>
      (list.add pattern credential).mapError fun e =>
        ConfigError.invalid (.malformedPattern pattern e)) list = .ok longer) (target : Target) :
    longer.find? target =
      (list.find? target).or (FallbackPolicy.answer (.patterns items) target.text) := by
  induction items generalizing list with
  | nil =>
    rw [← Except.ok.inj h]
    exact (Option.or_none).symm
  | cons item rest ih =>
    obtain ⟨next, hnext, h⟩ := bind_eq_ok_iff.mp h
    rw [ih h, find?_add (mapError_eq_ok_iff.mp hnext), Option.or_assoc, FallbackPolicy.answer,
      FallbackPolicy.answer, List.find?_cons]
    by_cases haccepts : Glob.accepts item.1 target.text = true <;> simp [haccepts]

/-- The fallback that is built from a policy answers as the policy says. -/
lemma FallbackPolicy.resolve_build {policy : FallbackPolicy} {fallback : Fallback}
    (h : policy.build = .ok fallback) (target : Target) :
    fallback.resolve target = policy.answer target.text := by
  cases policy with
  | none =>
    rw [← Except.ok.inj h]
    rfl
  | always credential =>
    rw [← Except.ok.inj h]
    rfl
  | patterns items =>
    obtain ⟨list, hlist, h⟩ := bind_eq_ok_iff.mp h
    rw [← Except.ok.inj h]
    exact PatternList.find?_foldlM_add hlist target

namespace Config

/-! ### Targets -/

/-- What makes two items of a list of logins clash: the family and the text of the target. -/
def key (item : ScopedLogin) : Family × String :=
  (item.family, item.target)

/-- The entries that a list of logins has for a family, under the texts of their targets. -/
def entries (family : Family) (items : List ScopedLogin) : WriteLog Entry :=
  items.filterMap fun item =>
    if item.family = family then item.login.map fun login => (item.target, login.entry family)
    else none

/-- A list of logins of which the first has a target that is not listed yet. -/
lemma readTargets_cons {seen : List (Family × String)} {item : ScopedLogin}
    {rest : List ScopedLogin} {result : List (Family × Target × Option Entry)}
    (h : readTargets seen (item :: rest) = .ok result) :
    ∃ target more, target.text = item.target ∧ key item ∉ seen ∧
      readTargets (key item :: seen) rest = .ok more ∧
      result = (item.family, target, item.login.map (·.entry item.family)) :: more := by
  rw [readTargets] at h
  obtain ⟨target, htarget, h⟩ := bind_eq_ok_iff.mp h
  have htext : target.text = item.target :=
    Target.text_of_parse (mapError_eq_ok_iff.mp htarget)
  rw [htext] at h
  by_cases hseen : seen.contains (item.family, item.target) = true
  · rw [if_pos hseen] at h
    exact nomatch h
  · rw [if_neg hseen] at h
    obtain ⟨more, hmore, h⟩ := bind_eq_ok_iff.mp h
    have hfresh : key item ∉ seen := fun hmem => hseen (List.contains_iff_mem.mpr hmem)
    exact ⟨target, more, htext, hfresh, hmore, (Except.ok.inj h).symm⟩

/-- No target is listed twice for a family, and none that stands in front. -/
lemma nodup_of_readTargets {seen : List (Family × String)} {items : List ScopedLogin}
    {result : List (Family × Target × Option Entry)} (h : readTargets seen items = .ok result) :
    (items.map key).Nodup ∧ ∀ item ∈ items, key item ∉ seen := by
  induction items generalizing seen result with
  | nil => exact ⟨List.nodup_nil, List.forall_mem_nil _⟩
  | cons item rest ih =>
    obtain ⟨target, more, -, hfresh, hmore, -⟩ := readTargets_cons h
    obtain ⟨hnodup, hrest⟩ := ih hmore
    have hnew : key item ∉ rest.map key := by
      intro hmem
      obtain ⟨other, hother, heq⟩ := List.mem_map.mp hmem
      exact hrest other hother (heq ▸ List.mem_cons_self)
    refine ⟨List.nodup_cons.mpr ⟨hnew, hnodup⟩, List.forall_mem_cons.mpr ⟨hfresh, ?_⟩⟩
    intro other hother hseen
    exact hrest other hother (List.mem_cons_of_mem _ hseen)

/-- The batch of a family writes the entries that the list has for it. -/
lemma writes_batch_of_readTargets {seen : List (Family × String)} {items : List ScopedLogin}
    {result : List (Family × Target × Option Entry)} (h : readTargets seen items = .ok result)
    (family : Family) : (batch family result).writes = entries family items := by
  induction items generalizing seen result with
  | nil =>
    rw [← Except.ok.inj h]
    rfl
  | cons item rest ih =>
    obtain ⟨target, more, htext, -, hmore, rfl⟩ := readTargets_cons h
    have hrest := ih hmore
    rw [batch, Batch.writes, entries] at hrest ⊢
    rw [List.filterMap_cons, List.filter_cons]
    by_cases hfamily : item.family = family
    · subst hfamily
      cases hlogin : item.login with
      | none => simpa [hlogin] using hrest
      | some login => simpa [hlogin, htext] using hrest
    · simpa [hfamily] using hrest

/-- The entries for a family are those of its items with a login. -/
lemma mem_entries_iff {family : Family} {items : List ScopedLogin} {text : String}
    {entry : Entry} :
    (text, entry) ∈ entries family items ↔
      ∃ item ∈ items, item.family = family ∧ item.target = text ∧
        ∃ login, item.login = some login ∧ login.entry family = entry := by
  rw [entries, List.mem_filterMap]
  refine exists_congr fun item => and_congr_right fun _ => ?_
  by_cases hfamily : item.family = family
  · rw [if_pos hfamily, Option.map_eq_some_iff]
    constructor
    · rintro ⟨login, hlogin, heq⟩
      exact ⟨hfamily, congrArg Prod.fst heq, login, hlogin, congrArg Prod.snd heq⟩
    · rintro ⟨-, htext, login, hlogin, hentry⟩
      exact ⟨login, hlogin, Prod.ext htext hentry⟩
  · simp [hfamily]

/-- The login that a configuration has for a text is that of an item with this text. -/
lemma exists_of_login?_eq_some {config : Config} {family : Family} {text : String} {login : Login}
    (h : config.login? family text = some login) :
    ∃ item ∈ config.credentials, item.family = family ∧ item.target = text ∧
      item.login = some login := by
  obtain ⟨item, hitem, hsome⟩ := List.exists_of_findSome?_eq_some h
  by_cases hkey : item.family = family ∧ item.target = text
  · rw [if_pos hkey] at hsome
    exact ⟨item, hitem, hkey.1, hkey.2, hsome⟩
  · rw [if_neg hkey] at hsome
    exact nomatch hsome

/-- The texts that a configuration has entries for in a family are those it enables. -/
lemma texts_entries (config : Config) (family : Family) :
    (entries family config.credentials).texts = config.enabled family := by
  rw [enabled, WriteLog.texts, entries]
  induction config.credentials with
  | nil => rfl
  | cons item rest ih =>
    rw [List.filterMap_cons, List.filter_cons]
    by_cases hfamily : item.family = family
    · cases hlogin : item.login with
      | none => simpa [hfamily, hlogin] using ih
      | some login => simpa [hfamily, hlogin] using ih
    · simpa [hfamily] using ih

/-! ### A list without clashes -/

section Distinct

variable {config : Config} (hnodup : (config.credentials.map key).Nodup)

include hnodup

/-- No text is enabled twice for a family. -/
lemma nodup_enabled (family : Family) : (config.enabled family).Nodup := by
  set items := config.credentials.filter fun item =>
    item.family = family ∧ item.login.isSome = true
  have hkeys : (items.map key).Nodup :=
    hnodup.sublist (List.filter_sublist.map key)
  have hpairs : items.map key = (items.map (·.target)).map (family, ·) := by
    rw [List.map_map]
    refine List.map_congr_left fun item hitem => ?_
    have hfamily : item.family = family := by
      have hkept := List.of_mem_filter hitem
      exact (of_decide_eq_true hkept).1
    exact Prod.ext hfamily rfl
  rw [hpairs] at hkeys
  exact hkeys.of_map _

/-- An enabled login is the one that the configuration has for its target, wherever it stands. -/
lemma login?_eq_some_of_mem {item : ScopedLogin} (hitem : item ∈ config.credentials)
    {login : Login} (hlogin : item.login = some login) :
    config.login? item.family item.target = some login := by
  cases hfound : config.login? item.family item.target with
  | none =>
    have hnone := List.findSome?_eq_none_iff.mp hfound item hitem
    rw [if_pos ⟨rfl, rfl⟩, hlogin] at hnone
    exact nomatch hnone
  | some other =>
    obtain ⟨another, hanother, hfamily, htext, hother⟩ := exists_of_login?_eq_some hfound
    have hsame : another = item :=
      List.inj_on_of_nodup_map hnodup hanother hitem (Prod.ext hfamily htext)
    rw [← hother, hsame, hlogin]

/-- What counts in the log of a family is the entry of the login that the configuration has. -/
lemma last?_entries (family : Family) (text : String) :
    (entries family config.credentials).last? text =
      (config.login? family text).map (·.entry family) := by
  cases hfound : config.login? family text with
  | some login =>
    obtain ⟨item, hitem, hfamily, htext, hlogin⟩ := exists_of_login?_eq_some hfound
    have hmem := mem_entries_iff.mpr ⟨item, hitem, hfamily, htext, login, hlogin, rfl⟩
    refine WriteLog.last?_eq_some_of_mem ?_ hmem
    rw [texts_entries]
    exact nodup_enabled hnodup family
  | none =>
    rw [Option.map_none, Option.eq_none_iff_forall_ne_some]
    intro entry hentry
    obtain ⟨item, hitem, rfl, rfl, login, hlogin, -⟩ :=
      mem_entries_iff.mp (WriteLog.mem_of_last?_eq_some hentry)
    rw [login?_eq_some_of_mem hnodup hitem hlogin] at hfound
    exact nomatch hfound

end Distinct

/-! ### The authenticators -/

/-- What is found in the store of a family is the login that the configuration has. -/
lemma get?_of_matches {config : Config} (hnodup : (config.credentials.map key).Nodup)
    {family : Family} {auth : Authenticator family} {fallback : Fallback}
    (h : auth.Matches (entries family config.credentials) fallback) (target : Target) :
    auth.store.get? target = (config.login? family target.text).map (·.entry family) := by
  rw [h.store_follows.get?_eq, last?_entries hnodup]

/-- A configuration that can be carried out lists no target twice for a family, its fallback can be
built, and each authenticator holds the entries for its family. -/
lemma matches_of_authenticators {config : Config} {auths : Authenticators}
    (h : config.authenticators = .ok auths) :
    (config.credentials.map key).Nodup ∧ ∃ fallback, config.fallback.build = .ok fallback ∧
      auths.basic.Matches (entries .basic config.credentials) fallback ∧
      auths.ntlm.Matches (entries .ntlm config.credentials) fallback := by
  obtain ⟨fallback, hfallback, h⟩ := bind_eq_ok_iff.mp h
  obtain ⟨items, hitems, h⟩ := bind_eq_ok_iff.mp h
  obtain ⟨basic, hbasic, h⟩ := bind_eq_ok_iff.mp h
  obtain ⟨ntlm, hntlm, h⟩ := bind_eq_ok_iff.mp h
  rw [← Except.ok.inj h]
  refine ⟨(nodup_of_readTargets hitems).1, fallback, mapError_eq_ok_iff.mp hfallback, ?_, ?_⟩
  · rw [← writes_batch_of_readTargets hitems]
    exact ⟨(Authenticator.matches_of_ofBatch hbasic).store_follows, rfl⟩
  · rw [← writes_batch_of_readTargets hitems]
    exact ⟨(Authenticator.matches_of_ofBatch hntlm).store_follows, rfl⟩

/-- The targets of a store that holds the entries for a family are those that are enabled. -/
lemma perm_targets {config : Config} (hnodup : (config.credentials.map key).Nodup)
    {family : Family} {store : Store family}
    (h : store.Follows (entries family config.credentials)) :
    store.targets.Perm (config.enabled family) := by
  refine (List.perm_ext_iff_of_nodup store.items.nodup_keys (nodup_enabled hnodup family)).mpr ?_
  intro text
  rw [← texts_entries]
  exact TextMap.mem_keys_of_follows h text

/-- Every login that is enabled is enabled in one of the families. -/
lemma length_enabled_add (config : Config) :
    (config.enabled .basic).length + (config.enabled .ntlm).length =
      (config.credentials.filter (·.login.isSome)).length := by
  have hsplit := List.length_eq_length_filter_add (l := config.credentials.filter (·.login.isSome))
    fun item => decide (item.family = .basic)
  have hbasic : ∀ item : ScopedLogin,
      decide (item.family = .basic ∧ item.login.isSome = true) =
        (decide (item.family = .basic) && item.login.isSome) := by
    intro item
    cases item.family <;> simp
  have hntlm : ∀ item : ScopedLogin,
      decide (item.family = .ntlm ∧ item.login.isSome = true) =
        (!decide (item.family = .basic) && item.login.isSome) := by
    intro item
    cases item.family <;> simp
  rw [hsplit, List.filter_filter, List.filter_filter, enabled, enabled, List.length_map,
    List.length_map]
  simp only [hbasic, hntlm]

/-- The authenticators of a configuration present to each target the credential that the
configuration has for its text, and an enabled login is the one that counts wherever it stands.  The
texts stored in a family are those that are enabled for it, in ascending order, and the number of
entries is that of the enabled logins. -/
theorem resolve_authenticators {config : Config} {auths : Authenticators}
    (h : config.authenticators = .ok auths) :
    (∀ target, auths.resolve target = config.answer target.text) ∧
    (∀ item ∈ config.credentials, ∀ login, item.login = some login →
      config.login? item.family item.target = some login) ∧
    (∀ family, (auths.targets family).Pairwise (· < ·) ∧
      (auths.targets family).Perm (config.enabled family)) ∧
    auths.size = (config.credentials.filter (·.login.isSome)).length := by
  obtain ⟨hnodup, fallback, hfallback, hbasic, hntlm⟩ := matches_of_authenticators h
  have hbasicPerm := perm_targets hnodup hbasic.store_follows
  have hntlmPerm := perm_targets hnodup hntlm.store_follows
  refine ⟨fun target => ?_, fun item hitem login => login?_eq_some_of_mem hnodup hitem, ?_, ?_⟩
  · have hgetBasic := get?_of_matches hnodup hbasic target
    have hgetNtlm := get?_of_matches hnodup hntlm target
    rw [Authenticators.resolve, Store.contains, answer, Authenticator.resolve,
      Authenticator.resolve, hgetNtlm, hgetBasic, hbasic.fallback_eq]
    cases config.login? .ntlm target.text with
    | some login => rfl
    | none =>
      cases config.login? .basic target.text with
      | some login => rfl
      | none => exact FallbackPolicy.resolve_build hfallback target
  · intro family
    cases family with
    | basic => exact ⟨auths.basic.store.items.pairwise_keys, hbasicPerm⟩
    | ntlm => exact ⟨auths.ntlm.store.items.pairwise_keys, hntlmPerm⟩
  · rw [← length_enabled_add, ← hbasicPerm.length_eq, ← hntlmPerm.length_eq]
    exact congrArg₂ (· + ·) (TextMap.length_keys _).symm (TextMap.length_keys _).symm

/-- A configuration with one target in both families, one that is disabled in NTLM only, one that is
disabled altogether, and patterns for the others. -/
def bothFamilies : Config where
  logging := ⟨"info", .pretty⟩
  credentials :=
    [⟨"https://a.example/", .basic, some ⟨"bob", ⟨"pw"⟩, none, none⟩⟩,
      ⟨"https://a.example/", .ntlm, some ⟨"alice", ⟨"s3cret"⟩, some "ws1", none⟩⟩,
      ⟨"https://b.example/", .ntlm, none⟩,
      ⟨"https://b.example/", .basic, some ⟨"carol", ⟨""⟩, none, none⟩⟩,
      ⟨"https://c.example/", .basic, none⟩]
  fallback := .patterns
    [("https://c.*", .basic ⟨"guest", ⟨"one"⟩⟩), ("*", .basic ⟨"anyone", ⟨"two"⟩⟩)]

/-- NTLM comes before Basic, and a disabled login is as good as none. -/
theorem resolve_authenticators_bothFamilies :
    ∃ auths, bothFamilies.authenticators = .ok auths ∧
      (∀ target : Target, target.text = "https://a.example/" →
        auths.resolve target = some (.ntlm ⟨"alice", ⟨"s3cret"⟩, some "WS1", some ""⟩)) ∧
      (∀ target : Target, target.text = "https://b.example/" →
        auths.resolve target = some (.basic ⟨"carol", ⟨""⟩⟩)) ∧
      (∀ target : Target, target.text = "https://c.example/" →
        auths.resolve target = some (.basic ⟨"guest", ⟨"one"⟩⟩)) ∧
      auths.size = 3 := by
  have hok : bothFamilies.authenticators.isOk = true := by decide +kernel
  cases h : bothFamilies.authenticators with
  | error error =>
    rw [h] at hok
    exact nomatch hok
  | ok auths =>
    obtain ⟨hresolve, -, -, hsize⟩ := resolve_authenticators h
    refine ⟨auths, rfl, ?_, ?_, ?_, hsize⟩
    · intro target htext
      rw [hresolve, htext]
      decide +kernel
    · intro target htext
      rw [hresolve, htext]
      decide +kernel
    · intro target htext
      rw [hresolve, htext]
      decide +kernel

end Config

end ScopedAuth
