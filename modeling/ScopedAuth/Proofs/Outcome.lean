import Mathlib.Data.List.Forall2
import Mathlib.Tactic.ByContra

/-!
# Outcomes of steps that may fail

How a step that is put together from others can succeed or fail, what the steps for the members of
a list give, and which member is the first to fail.
-/

namespace ScopedAuth

variable {ε δ α β γ : Type}

/-- Two steps in a row succeed exactly if both do. -/
lemma bind_eq_ok_iff {first : Except ε α} {second : α → Except ε β} {value : β} :
    (first >>= second) = .ok value ↔ ∃ middle, first = .ok middle ∧ second middle = .ok value := by
  cases first with
  | error error => simp [bind, Except.bind]
  | ok middle => simp [bind, Except.bind]

/-- Two steps in a row fail if the first fails, or the second with what the first gives. -/
lemma bind_eq_error_iff {first : Except ε α} {second : α → Except ε β} {error : ε} :
    (first >>= second) = .error error ↔
      first = .error error ∨ ∃ middle, first = .ok middle ∧ second middle = .error error := by
  cases first with
  | error other => simp [bind, Except.bind]
  | ok middle => simp [bind, Except.bind]

/-- To put a result into another form makes no step succeed. -/
lemma map_eq_ok_iff {f : α → β} {step : Except ε α} {value : β} :
    f <$> step = .ok value ↔ ∃ other, step = .ok other ∧ f other = value := by
  cases step with
  | error error => simp [Functor.map, Except.map]
  | ok other => simp [Functor.map, Except.map]

/-- To put a result into another form makes no step fail. -/
lemma map_eq_error_iff {f : α → β} {step : Except ε α} {error : ε} :
    f <$> step = .error error ↔ step = .error error := by
  cases step with
  | error other => simp [Functor.map, Except.map]
  | ok value => simp [Functor.map, Except.map]

/-- To report errors in other words makes no step succeed and none fail. -/
lemma mapError_eq_ok_iff {step : Except ε α} {f : ε → δ} {value : α} :
    step.mapError f = .ok value ↔ step = .ok value := by
  cases step with
  | error error => simp only [Except.mapError, reduceCtorEq]
  | ok other => simp only [Except.mapError, Except.ok.injEq]

/-- A step is a success if it gives a value, and only then. -/
lemma isOk_iff {step : Except ε α} : step.isOk = true ↔ ∃ value, step = .ok value := by
  cases step with
  | error error => simp only [Except.isOk, Except.toBool, Bool.false_eq_true, reduceCtorEq,
      exists_false]
  | ok value => simp only [Except.isOk, Except.toBool, Except.ok.injEq, exists_eq']

/-- A step whose success and failure are both accounted for by a condition succeeds exactly under
that condition. -/
lemma exists_eq_ok_iff {step : Except ε α} {p : Prop} (hok : p → ∃ value, step = .ok value)
    (herror : ¬ p → ∃ error, step = .error error) : (∃ value, step = .ok value) ↔ p := by
  constructor
  · rintro ⟨value, hvalue⟩
    by_contra hp
    obtain ⟨error, h⟩ := herror hp
    rw [hvalue] at h
    exact nomatch h
  · exact hok

/-! ### Steps that look for mistakes -/

/-- The outcome of a step that looks for mistakes in order: a value if it finds none, and otherwise
the first mistake. -/
def verdict (mistakes : List ε) (value : α) : Except ε α :=
  match mistakes with
  | [] => .ok value
  | first :: _ => .error first

/-- A value is given if there are no mistakes, and only then. -/
lemma verdict_eq_ok_iff {mistakes : List ε} {value other : α} :
    verdict mistakes value = .ok other ↔ mistakes = [] ∧ value = other := by
  cases mistakes with
  | nil => simp [verdict]
  | cons first rest => simp [verdict]

/-- What is reported is the first mistake. -/
lemma verdict_eq_error_iff {mistakes : List ε} {value : α} {error : ε} :
    verdict mistakes value = .error error ↔ mistakes.head? = some error := by
  cases mistakes with
  | nil => simp [verdict]
  | cons first rest => simp [verdict]

/-- The mistakes that the second of two steps looks for come behind those of the first. -/
lemma verdict_bind {mistakes more : List ε} {value : α} {next : α → Except ε β} {result : β}
    (h : next value = verdict more result) :
    (verdict mistakes value >>= next) = verdict (mistakes ++ more) result := by
  cases mistakes with
  | nil => exact h
  | cons first rest => rfl

/-- To put the value into another form finds no more mistakes. -/
lemma map_verdict (f : α → β) (mistakes : List ε) (value : α) :
    f <$> verdict mistakes value = verdict mistakes (f value) := by
  cases mistakes with
  | nil => rfl
  | cons first rest => rfl

/-- The mistakes in the members of a list are looked for in the order of the list. -/
lemma mapM_eq_verdict {f : α → Except ε β} {mistakes : α → List ε} {value : α → β} {l : List α}
    (h : ∀ a ∈ l, f a = verdict (mistakes a) (value a)) :
    l.mapM f = verdict (l.flatMap mistakes) (l.map value) := by
  induction l with
  | nil => rfl
  | cons a rest ih =>
    obtain ⟨ha, hrest⟩ := List.forall_mem_cons.mp h
    rw [List.mapM_cons, ha, List.flatMap_cons, List.map_cons, ih hrest]
    refine verdict_bind ?_
    rw [bind_pure_comp]
    exact map_verdict (value a :: ·) (rest.flatMap mistakes) (rest.map value)

/-! ### Steps for the members of a list -/

/-- Only a step for a member fails where the steps for a list do. -/
lemma exists_of_mapM_eq_error {f : α → Except ε β} {l : List α} {error : ε}
    (h : l.mapM f = .error error) : ∃ a ∈ l, f a = .error error := by
  induction l with
  | nil => exact nomatch h
  | cons a rest ih =>
    rw [List.mapM_cons, bind_eq_error_iff] at h
    rcases h with ha | ⟨b, -, hrest⟩
    · exact ⟨a, List.mem_cons_self, ha⟩
    · rcases bind_eq_error_iff.mp hrest with hrest | ⟨more, -, hmore⟩
      · obtain ⟨c, hmem, hc⟩ := ih hrest
        exact ⟨c, List.mem_cons_of_mem a hmem, hc⟩
      · exact nomatch hmore

/-- Steps that go alike for each pair of members go alike for the lists. -/
lemma mapM_eq_of_forall₂ {f : α → Except ε γ} {g : β → Except ε γ} {l : List α} {m : List β}
    (h : List.Forall₂ (fun a b => f a = g b) l m) : l.mapM f = m.mapM g := by
  induction h with
  | nil => rfl
  | cons hab _ ih => rw [List.mapM_cons, List.mapM_cons, hab, ih]

/-- The step for the only member of a list gives the only value. -/
lemma mapM_singleton_eq_ok {f : α → Except ε β} {a : α} {b : β} (h : f a = .ok b) :
    [a].mapM f = .ok [b] := by
  rw [List.mapM_cons, h]
  rfl

/-- The steps for a list give a value for each member, in order. -/
lemma forall₂_of_mapM_eq_ok {f : α → Except ε β} {l : List α} {m : List β}
    (h : l.mapM f = .ok m) : List.Forall₂ (fun a b => f a = .ok b) l m := by
  induction l generalizing m with
  | nil =>
    cases h
    exact .nil
  | cons a rest ih =>
    rw [List.mapM_cons] at h
    obtain ⟨b, hb, h⟩ := bind_eq_ok_iff.mp h
    obtain ⟨more, hmore, h⟩ := bind_eq_ok_iff.mp h
    cases h
    exact .cons hb (ih hmore)

/-- Each member of a list belongs to one of the other. -/
lemma exists_mem_right_of_forall₂ {r : α → β → Prop} {l : List α} {m : List β}
    (h : List.Forall₂ r l m) {a : α} (ha : a ∈ l) : ∃ b ∈ m, r a b := by
  induction h with
  | nil => exact absurd ha List.not_mem_nil
  | cons hab _ ih =>
    rcases List.mem_cons.mp ha with rfl | ha
    · exact ⟨_, List.mem_cons_self, hab⟩
    · obtain ⟨b, hb, hr⟩ := ih ha
      exact ⟨b, List.mem_cons_of_mem _ hb, hr⟩

/-- The first member that meets a condition belongs to the first of the other list that does. -/
lemma find?_of_forall₂ {r : α → β → Prop} {p : α → Bool} {q : β → Bool}
    (hpq : ∀ a b, r a b → q b = p a) {l : List α} {m : List β} (h : List.Forall₂ r l m) {a : α}
    (ha : l.find? p = some a) : ∃ b, m.find? q = some b ∧ r a b := by
  induction h with
  | nil => exact nomatch ha
  | @cons c d rest more hcd _ ih =>
    rw [List.find?_cons] at ha ⊢
    rw [hpq c d hcd]
    cases hp : p c with
    | true =>
      rw [hp] at ha
      obtain rfl := Option.some.inj ha
      exact ⟨d, rfl, hcd⟩
    | false =>
      rw [hp] at ha
      exact ih ha

/-- Of a list whose members do not all meet a condition, one is the first that does not. -/
lemma exists_first_of_not_forall {p : α → Prop} {l : List α} (h : ¬ ∀ a ∈ l, p a) :
    ∃ before a after, l = before ++ a :: after ∧ (∀ b ∈ before, p b) ∧ ¬ p a := by
  induction l with
  | nil => exact absurd (List.forall_mem_nil _) h
  | cons a rest ih =>
    by_cases ha : p a
    · obtain ⟨before, b, after, rfl, hbefore, hb⟩ :=
        ih fun hrest => h (List.forall_mem_cons.mpr ⟨ha, hrest⟩)
      exact ⟨a :: before, b, after, rfl, List.forall_mem_cons.mpr ⟨ha, hbefore⟩, hb⟩
    · exact ⟨[], a, rest, rfl, List.forall_mem_nil _, ha⟩

end ScopedAuth
