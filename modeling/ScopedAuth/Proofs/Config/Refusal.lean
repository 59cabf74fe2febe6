import ScopedAuth.Proofs.Config.Resolution

/-!
# Which configurations are refused, and for what

A configuration is refused for a fallback pattern that cannot be read, or else for a target: a text
that is none, or one that is listed before for the same family.  The first one in the file is
reported, patterns before targets, and `authenticators_eq_error_iff` leaves no other reason.

In particular no configuration is refused for an identity with too few fields.  The stores would
refuse one, but an entry made from a login has as many fields as its family needs, and it goes to
the store of this family (`full_batch_of_readTargets`).
-/

namespace ScopedAuth

/-! ### Patterns -/

namespace FallbackPolicy

/-- The patterns of a policy, with their credentials. -/
def items : FallbackPolicy → List (String × Credential)
  | .none | .always _ => []
  | .patterns items => items

/-- Every pattern of a policy can be read. -/
def Readable (policy : FallbackPolicy) : Prop :=
  ∀ item ∈ policy.items, (Glob.Pattern.parse item.1).isOk = true

instance (policy : FallbackPolicy) : Decidable policy.Readable :=
  inferInstanceAs (Decidable (∀ item ∈ policy.items, _))

/-- A pattern is the first of a policy that cannot be read. -/
def IsFirstMalformed (policy : FallbackPolicy) (pattern : String) (error : Glob.PatternError) :
    Prop :=
  ∃ before credential after, policy.items = before ++ (pattern, credential) :: after ∧
    (∀ item ∈ before, (Glob.Pattern.parse item.1).isOk = true) ∧
    Glob.Pattern.parse pattern = .error error

/-- If not every pattern can be read, there is a first that cannot. -/
lemma exists_isFirstMalformed {policy : FallbackPolicy} (h : ¬ policy.Readable) :
    ∃ pattern error, policy.IsFirstMalformed pattern error := by
  obtain ⟨before, ⟨pattern, credential⟩, after, hsplit, hbefore, hmalformed⟩ :=
    exists_first_of_not_forall h
  cases hparse : Glob.Pattern.parse pattern with
  | ok parsed => exact absurd (isOk_iff.mpr ⟨parsed, hparse⟩) hmalformed
  | error error => exact ⟨pattern, error, before, credential, after, hsplit, hbefore, hparse⟩

/-- Adds one more pattern to those of a fallback. -/
def addItem (list : PatternList) (item : String × Credential) : Except ConfigError PatternList :=
  (list.add item.1 item.2).mapError fun e => .invalid (.malformedPattern item.1 e)

/-- A fallback with patterns has one added after the other. -/
lemma build_patterns (items : List (String × Credential)) :
    build (.patterns items) = (items.foldlM addItem .empty).map .patterns :=
  rfl

/-- A pattern that can be read is added. -/
lemma exists_addItem_eq_ok {item : String × Credential}
    (h : (Glob.Pattern.parse item.1).isOk = true) (list : PatternList) :
    ∃ longer, addItem list item = .ok longer := by
  obtain ⟨parsed, hparsed⟩ := isOk_iff.mp h
  rw [addItem, PatternList.add, hparsed]
  exact ⟨_, rfl⟩

/-- A pattern that cannot be read is reported. -/
lemma addItem_of_error {pattern : String} {error : Glob.PatternError}
    (h : Glob.Pattern.parse pattern = .error error) (list : PatternList)
    (credential : Credential) :
    addItem list (pattern, credential) = .error (.invalid (.malformedPattern pattern error)) := by
  rw [addItem, PatternList.add, h]
  rfl

/-- Patterns that can be read are all added. -/
lemma exists_foldlM_addItem_eq_ok (items : List (String × Credential))
    (h : ∀ item ∈ items, (Glob.Pattern.parse item.1).isOk = true) (list : PatternList) :
    ∃ longer, items.foldlM addItem list = .ok longer := by
  induction items generalizing list with
  | nil => exact ⟨list, rfl⟩
  | cons item rest ih =>
    obtain ⟨hitem, hrest⟩ := List.forall_mem_cons.mp h
    obtain ⟨next, hnext⟩ := exists_addItem_eq_ok hitem list
    rw [List.foldlM_cons, hnext]
    exact ih hrest next

/-- The fallback of a policy whose patterns can all be read is built. -/
lemma exists_build_eq_ok {policy : FallbackPolicy} (h : policy.Readable) :
    ∃ fallback, policy.build = .ok fallback := by
  cases policy with
  | none => exact ⟨.none, rfl⟩
  | always credential => exact ⟨.always credential, rfl⟩
  | patterns items =>
    obtain ⟨list, hlist⟩ := exists_foldlM_addItem_eq_ok items h .empty
    rw [build_patterns, hlist]
    exact ⟨.patterns list, rfl⟩

/-- The first pattern that cannot be read is reported. -/
lemma build_of_isFirstMalformed {policy : FallbackPolicy} {pattern : String}
    {error : Glob.PatternError} (h : policy.IsFirstMalformed pattern error) :
    policy.build = .error (.invalid (.malformedPattern pattern error)) := by
  obtain ⟨before, credential, after, hsplit, hbefore, hparse⟩ := h
  have hmem : (pattern, credential) ∈ policy.items := by
    rw [hsplit]
    exact List.mem_append_cons_self
  cases policy with
  | none => exact absurd hmem List.not_mem_nil
  | always other => exact absurd hmem List.not_mem_nil
  | patterns items =>
    have hitems : items = before ++ (pattern, credential) :: after := hsplit
    obtain ⟨list, hlist⟩ := exists_foldlM_addItem_eq_ok before hbefore .empty
    have hfold : items.foldlM addItem .empty =
        .error (.invalid (.malformedPattern pattern error)) := by
      rw [hitems, List.foldlM_append, hlist]
      exact congrArg (· >>= fun next => after.foldlM addItem next)
        (addItem_of_error hparse list credential)
    rw [build_patterns, hfold]
    rfl

end FallbackPolicy

namespace Config

/-! ### Targets -/

/-- Every text of a list of logins is a target, and none is listed twice for a family. -/
def Sound (items : List ScopedLogin) : Prop :=
  (∀ item ∈ items, (Target.parse item.target).isOk = true) ∧ (items.map key).Nodup

/-- What is wrong with an item that stands behind others. -/
inductive Offends (before : List ScopedLogin) (item : ScopedLogin) : SetupError → Prop
  /-- Its text is not a target. -/
  | noTarget (error : Target.Error) (h : Target.parse item.target = .error error) :
    Offends before item (.argument (.target error))
  /-- Its text is listed before for the same family. -/
  | repeated (earlier : ScopedLogin) (hparse : (Target.parse item.target).isOk = true)
    (hmem : earlier ∈ before) (hfamily : earlier.family = item.family)
    (htext : earlier.target = item.target) :
    Offends before item (.config (.invalid (.duplicateTarget item.target item.family)))

/-- With a sound list in front an item offends, or it keeps the list sound. -/
lemma sound_or_offends {before : List ScopedLogin} (h : Sound before) (item : ScopedLogin) :
    Sound (before ++ [item]) ∨ ∃ error, Offends before item error := by
  cases hparse : Target.parse item.target with
  | error error => exact Or.inr ⟨_, .noTarget error hparse⟩
  | ok target =>
    have hok := isOk_iff.mpr ⟨target, hparse⟩
    by_cases hkey : key item ∈ before.map key
    · obtain ⟨earlier, hmem, heq⟩ := List.mem_map.mp hkey
      exact Or.inr ⟨_, .repeated earlier hok hmem (congrArg Prod.fst heq) (congrArg Prod.snd heq)⟩
    · refine Or.inl ⟨?_, ?_⟩
      · exact List.forall_mem_append.mpr ⟨h.1, List.forall_mem_singleton.mpr hok⟩
      · rw [List.map_append, List.nodup_append_comm]
        exact List.nodup_cons.mpr ⟨hkey, h.2⟩

/-- A list of logins is sound, or one of its items is the first to offend. -/
lemma sound_or_exists_offends (items : List ScopedLogin) :
    Sound items ∨ ∃ before item after error, items = before ++ item :: after ∧ Sound before ∧
      Offends before item error := by
  induction items using List.reverseRecOn with
  | nil => exact Or.inl ⟨List.forall_mem_nil _, List.nodup_nil⟩
  | append_singleton items item ih =>
    rcases ih with hsound | ⟨before, other, after, error, rfl, hbefore, hoffends⟩
    · refine (sound_or_offends hsound item).imp_right ?_
      rintro ⟨error, hoffends⟩
      exact ⟨items, item, [], error, rfl, hsound, hoffends⟩
    · refine Or.inr ⟨before, other, after ++ [item], error, ?_, hbefore, hoffends⟩
      rw [List.append_assoc, List.cons_append]

section Split

variable {before after : List ScopedLogin} {item : ScopedLogin}

/-- The text of an item of a sound list is read. -/
lemma Sound.exists_parse_eq_ok (h : Sound (before ++ item :: after)) :
    ∃ target, Target.parse item.target = .ok target :=
  isOk_iff.mp (h.1 item List.mem_append_cons_self)

/-- An item of a sound list is not listed before for the same family. -/
lemma Sound.not_mem_map_key (h : Sound (before ++ item :: after)) :
    key item ∉ before.map key := by
  have hnodup := h.2
  rw [List.map_append, List.map_cons] at hnodup
  intro hmem
  exact (List.nodup_append.mp hnodup).2.2 _ hmem _ List.mem_cons_self rfl

/-- A list with an item that offends is not sound. -/
lemma Offends.not_sound {error : SetupError} (h : Offends before item error) :
    ¬ Sound (before ++ item :: after) := by
  intro hsound
  cases h with
  | noTarget error herror =>
    obtain ⟨target, hok⟩ := hsound.exists_parse_eq_ok
    rw [herror] at hok
    exact nomatch hok
  | repeated earlier _ hmem hfamily htext =>
    exact hsound.not_mem_map_key
      (List.mem_map.mpr ⟨earlier, hmem, Prod.ext hfamily htext⟩)

end Split

/-- A list is not sound if an item offends, and only then. -/
lemma not_sound_iff (items : List ScopedLogin) :
    ¬ Sound items ↔ ∃ before item after error, items = before ++ item :: after ∧
      Offends before item error := by
  constructor
  · intro h
    obtain ⟨before, item, after, error, hsplit, -, hoffends⟩ :=
      (sound_or_exists_offends items).resolve_left h
    exact ⟨before, item, after, error, hsplit, hoffends⟩
  · rintro ⟨before, item, after, error, rfl, hoffends⟩
    exact hoffends.not_sound

/-- A target that is not listed yet is read, and then the rest. -/
lemma readTargets_cons_of_fresh {seen : List (Family × String)} {item : ScopedLogin}
    {target : Target} (htarget : Target.parse item.target = .ok target) (hfresh : key item ∉ seen)
    (rest : List ScopedLogin) :
    readTargets seen (item :: rest) = (readTargets (key item :: seen) rest).map
      ((item.family, target, item.login.map (·.entry item.family)) :: ·) := by
  have hkey : (item.family, target.text) = key item := by
    rw [key, Target.text_of_parse htarget]
  have hseen : ¬ seen.contains (key item) = true := mt List.contains_iff_mem.mp hfresh
  rw [readTargets, Authenticator.readTarget, htarget]
  change (if seen.contains (item.family, target.text) = true then _ else _) = _
  rw [hkey, if_neg hseen]
  cases readTargets (key item :: seen) rest with
  | error error => rfl
  | ok more => rfl

/-- The first item is reported if it offends. -/
lemma readTargets_cons_of_offends {before : List ScopedLogin} {item : ScopedLogin}
    {error : SetupError} (h : Offends before item error) (rest : List ScopedLogin) :
    readTargets (before.map key).reverse (item :: rest) = .error error := by
  cases h with
  | noTarget error herror =>
    rw [readTargets, Authenticator.readTarget, herror]
    rfl
  | repeated earlier hparse hmem hfamily htext =>
    obtain ⟨target, htarget, htargetText⟩ := Authenticator.readTarget_of_isOk hparse
    have hkey : (item.family, target.text) = key item := by
      rw [key, htargetText]
    have hseen : (before.map key).reverse.contains (key item) = true :=
      List.contains_iff_mem.mpr (List.mem_reverse.mpr
        (List.mem_map.mpr ⟨earlier, hmem, Prod.ext hfamily htext⟩))
    rw [readTargets, htarget]
    change (if (before.map key).reverse.contains (item.family, target.text) = true then _ else _) =
      _
    rw [hkey, if_pos hseen, htargetText]
    rfl

/-- Items that are sound behind others are read one after the other. -/
lemma exists_readTargets_append (before items : List ScopedLogin) (h : Sound (before ++ items))
    (rest : List ScopedLogin) :
    ∃ read, readTargets (before.map key).reverse (items ++ rest) =
      (readTargets ((before ++ items).map key).reverse rest).map (read ++ ·) := by
  induction items generalizing before with
  | nil =>
    refine ⟨[], ?_⟩
    rw [List.append_nil, List.nil_append]
    cases readTargets (before.map key).reverse rest with
    | error error => rfl
    | ok more => rfl
  | cons item items ih =>
    obtain ⟨target, htarget⟩ := h.exists_parse_eq_ok
    have hfresh : key item ∉ (before.map key).reverse := mt List.mem_reverse.mp h.not_mem_map_key
    have hseen : key item :: (before.map key).reverse = ((before ++ [item]).map key).reverse := by
      rw [List.map_append, List.reverse_append]
      rfl
    have happend : before ++ item :: items = before ++ [item] ++ items := List.append_cons ..
    obtain ⟨read, hread⟩ := ih (before ++ [item]) (happend ▸ h)
    refine ⟨(item.family, target, item.login.map (·.entry item.family)) :: read, ?_⟩
    rw [List.cons_append, readTargets_cons_of_fresh htarget hfresh, hseen, hread, ← happend]
    cases readTargets ((before ++ item :: items).map key).reverse rest with
    | error error => rfl
    | ok more => rfl

/-- The items of a sound list are all read. -/
lemma exists_readTargets_eq_ok {items : List ScopedLogin} (h : Sound items) :
    ∃ result, readTargets [] items = .ok result := by
  obtain ⟨read, hread⟩ := exists_readTargets_append [] items h []
  rw [List.append_nil] at hread
  exact ⟨_, hread⟩

/-- The first item that offends is reported. -/
lemma readTargets_of_offends {before after : List ScopedLogin} {item : ScopedLogin}
    {error : SetupError} (hbefore : Sound before) (h : Offends before item error) :
    readTargets [] (before ++ item :: after) = .error error := by
  obtain ⟨read, hread⟩ := exists_readTargets_append [] before hbefore (item :: after)
  rw [List.nil_append, readTargets_cons_of_offends h] at hread
  exact hread

/-! ### Authenticators -/

/-- The entries of a list of logins have the fields that the families of their stores need. -/
lemma full_batch_of_readTargets {seen : List (Family × String)} {items : List ScopedLogin}
    {result : List (Family × Target × Option Entry)} (h : readTargets seen items = .ok result)
    (family : Family) : (batch family result).Full family := by
  induction items generalizing seen result with
  | nil =>
    rw [← Except.ok.inj h]
    exact List.forall_mem_nil _
  | cons item rest ih =>
    obtain ⟨target, more, -, -, hmore, rfl⟩ := readTargets_cons h
    have hrest := ih hmore
    rw [batch, List.filter_cons]
    by_cases hfamily : item.family = family
    · rw [if_pos (decide_eq_true hfamily), List.map_cons]
      cases hlogin : item.login with
      | none => exact Batch.full_cons_none.mpr hrest
      | some login =>
        subst hfamily
        exact Batch.full_cons_some.mpr ⟨Nat.le_of_eq (login.size_entry _).symm, hrest⟩
    · rw [if_neg (mt of_decide_eq_true hfamily)]
      exact hrest

/-- A configuration whose patterns can be read and whose targets are sound is carried out. -/
lemma exists_authenticators_eq_ok {config : Config} (hpatterns : config.fallback.Readable)
    (hsound : Sound config.credentials) : ∃ auths, config.authenticators = .ok auths := by
  obtain ⟨fallback, hfallback⟩ := FallbackPolicy.exists_build_eq_ok hpatterns
  obtain ⟨items, hitems⟩ := exists_readTargets_eq_ok hsound
  obtain ⟨basic, hbasic, -⟩ :=
    Authenticator.ofBatch_of_full (full_batch_of_readTargets hitems .basic)
  obtain ⟨ntlm, hntlm, -⟩ :=
    Authenticator.ofBatch_of_full (full_batch_of_readTargets hitems .ntlm)
  rw [authenticators, hfallback, hitems]
  simp only [Except.mapError, bind, Except.bind, hbasic, hntlm]
  exact ⟨_, rfl⟩

/-- A pattern that cannot be read is reported, whatever the targets. -/
lemma authenticators_of_isFirstMalformed {config : Config} {pattern : String}
    {error : Glob.PatternError} (h : config.fallback.IsFirstMalformed pattern error) :
    config.authenticators = .error (.config (.invalid (.malformedPattern pattern error))) := by
  rw [authenticators, FallbackPolicy.build_of_isFirstMalformed h]
  rfl

/-- If all patterns can be read, the first item that offends is reported. -/
lemma authenticators_of_offends {config : Config} {before after : List ScopedLogin}
    {item : ScopedLogin} {error : SetupError} (hpatterns : config.fallback.Readable)
    (hsplit : config.credentials = before ++ item :: after) (hbefore : Sound before)
    (h : Offends before item error) : config.authenticators = .error error := by
  obtain ⟨fallback, hfallback⟩ := FallbackPolicy.exists_build_eq_ok hpatterns
  rw [authenticators, hfallback, hsplit, readTargets_of_offends hbefore h]
  rfl

/-- What a configuration is refused for: the first pattern that cannot be read or, if all can, the
first item that offends. -/
inductive Refusal (config : Config) : SetupError → Prop
  | pattern (pattern : String) (error : Glob.PatternError)
    (h : config.fallback.IsFirstMalformed pattern error) :
    Refusal config (.config (.invalid (.malformedPattern pattern error)))
  | target (before : List ScopedLogin) (item : ScopedLogin) (after : List ScopedLogin)
    (error : SetupError) (hpatterns : config.fallback.Readable)
    (hsplit : config.credentials = before ++ item :: after) (hbefore : Sound before)
    (h : Offends before item error) : Refusal config error

/-- A configuration whose patterns or targets are not in order is refused for something. -/
lemma exists_refusal {config : Config}
    (h : ¬ (config.fallback.Readable ∧ Sound config.credentials)) :
    ∃ error, Refusal config error := by
  by_cases hpatterns : config.fallback.Readable
  · have hsound : ¬ Sound config.credentials := fun hsound => h ⟨hpatterns, hsound⟩
    obtain ⟨before, item, after, error, hsplit, hbefore, hoffends⟩ :=
      (sound_or_exists_offends config.credentials).resolve_left hsound
    exact ⟨error, .target before item after error hpatterns hsplit hbefore hoffends⟩
  · obtain ⟨pattern, error, hfirst⟩ := FallbackPolicy.exists_isFirstMalformed hpatterns
    exact ⟨_, .pattern pattern error hfirst⟩

/-- What a configuration is refused for is reported. -/
lemma Refusal.authenticators_eq {config : Config} {error : SetupError}
    (h : Refusal config error) : config.authenticators = .error error := by
  cases h with
  | pattern pattern error h => exact authenticators_of_isFirstMalformed h
  | target before item after error hpatterns hsplit hbefore h =>
    exact authenticators_of_offends hpatterns hsplit hbefore h

/-- A configuration is refused unless its patterns and targets are in order. -/
lemma exists_authenticators_eq_error_iff (config : Config) :
    (∃ error, config.authenticators = .error error) ↔
      ¬ (config.fallback.Readable ∧ Sound config.credentials) := by
  constructor
  · rintro ⟨error, herror⟩ ⟨hpatterns, hsound⟩
    obtain ⟨auths, hok⟩ := exists_authenticators_eq_ok hpatterns hsound
    rw [herror] at hok
    exact nomatch hok
  · intro h
    obtain ⟨error, hrefusal⟩ := exists_refusal h
    exact ⟨error, hrefusal.authenticators_eq⟩

/-- A configuration is carried out if its patterns and targets are in order, and only then. -/
lemma exists_authenticators_eq_ok_iff (config : Config) :
    (∃ auths, config.authenticators = .ok auths) ↔
      config.fallback.Readable ∧ Sound config.credentials := by
  refine exists_eq_ok_iff (fun h => exists_authenticators_eq_ok h.1 h.2) fun h => ?_
  exact (exists_authenticators_eq_error_iff config).mpr h

/-- What is reported is what a configuration is refused for. -/
lemma refusal_of_authenticators_eq {config : Config} {error : SetupError}
    (h : config.authenticators = .error error) : Refusal config error := by
  obtain ⟨other, hrefusal⟩ :=
    exists_refusal ((exists_authenticators_eq_error_iff config).mp ⟨error, h⟩)
  have hother := hrefusal.authenticators_eq
  rw [h] at hother
  rw [Except.error.inj hother]
  exact hrefusal

/-- No configuration is refused for an identity with too few fields. -/
lemma Refusal.ne_identityTooShort {config : Config} {error : SetupError} (h : Refusal config error)
    (text : String) (family : Family) (actual : Nat) :
    error ≠ .argument (.identityTooShort text family actual) := by
  cases h with
  | pattern pattern error h => exact SetupError.noConfusion
  | target before item after error hpatterns hsplit hbefore h =>
    cases h with
    | noTarget error h => exact fun heq => nomatch SetupError.argument.inj heq
    | repeated => exact SetupError.noConfusion

/-- A configuration is refused if a fallback pattern cannot be read, or if an item of its list,
with a login or without, offends: its text is not a target, or is listed before for the same family.
A pattern is reported whatever the targets; what is reported is always the first in the file.
An identity with too few fields is never the reason, and a target may be listed once for each
family. -/
theorem authenticators_eq_error_iff (config : Config) :
    ((∃ error, config.authenticators = .error error) ↔
      (∃ item ∈ config.fallback.items, ¬ (Glob.Pattern.parse item.1).isOk = true) ∨
      ∃ before item after error, config.credentials = before ++ item :: after ∧
        Offends before item error) ∧
    (∀ error, config.authenticators = .error error ↔ Refusal config error) ∧
    (∀ text family actual,
      config.authenticators ≠ .error (.argument (.identityTooShort text family actual))) ∧
    (∀ text basic ntlm, config.fallback.Readable → (Target.parse text).isOk = true →
      ∃ auths, { config with
        credentials := [⟨text, .basic, basic⟩, ⟨text, .ntlm, ntlm⟩] }.authenticators =
          .ok auths) := by
  refine ⟨?_, fun error => ⟨refusal_of_authenticators_eq, Refusal.authenticators_eq⟩, ?_, ?_⟩
  · rw [exists_authenticators_eq_error_iff, not_and_or, not_sound_iff]
    simp only [FallbackPolicy.Readable, not_forall, exists_prop]
  · intro text family actual herror
    exact (refusal_of_authenticators_eq herror).ne_identityTooShort text family actual rfl
  · intro text basic ntlm hpatterns htext
    refine exists_authenticators_eq_ok hpatterns ⟨?_, ?_⟩
    · exact List.forall_mem_cons.mpr ⟨htext, List.forall_mem_singleton.mpr htext⟩
    · simp [key]

/-- A configuration that lists a target for Basic, disabled, for NTLM, and for Basic again. -/
def listedAgain : Config where
  logging := ⟨"info", .pretty⟩
  credentials :=
    [⟨"https://a.example/", .basic, none⟩,
      ⟨"https://a.example/", .ntlm, some ⟨"alice", ⟨"s3cret"⟩, none, none⟩⟩,
      ⟨"https://a.example/", .basic, some ⟨"bob", ⟨"pw"⟩, none, none⟩⟩,
      ⟨"https://[", .ntlm, none⟩]
  fallback := .patterns [("https://*", .basic ⟨"guest", ⟨"pw"⟩⟩)]

/-- It is refused for the third item, and would be carried out with the first two alone. -/
theorem authenticators_eq_error_iff_listedAgain :
    listedAgain.authenticators =
      .error (.config (.invalid (.duplicateTarget "https://a.example/" .basic))) ∧
    (listedAgain.fallback.Readable ∧ (Target.parse "https://a.example/").isOk = true) ∧
    ∃ auths, { listedAgain with
      credentials := listedAgain.credentials.take 2 }.authenticators = .ok auths := by
  obtain ⟨-, herror, -, hboth⟩ := authenticators_eq_error_iff listedAgain
  have hpatterns : listedAgain.fallback.Readable := by decide +kernel
  have htext : (Target.parse "https://a.example/").isOk = true := by decide +kernel
  refine ⟨(herror _).mpr ?_, ⟨hpatterns, htext⟩, hboth _ _ _ hpatterns htext⟩
  refine .target (listedAgain.credentials.take 2) _ _ _ hpatterns rfl ⟨?_, ?_⟩
    (.repeated _ htext List.mem_cons_self rfl rfl)
  · exact List.forall_mem_cons.mpr ⟨htext, List.forall_mem_singleton.mpr htext⟩
  · decide

end Config

end ScopedAuth
