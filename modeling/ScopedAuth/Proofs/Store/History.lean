import Mathlib.Data.List.Induction
import ScopedAuth.Proofs.Outcome
import ScopedAuth.Proofs.Store.Batch

/-!
# Histories of a store

A store is created, replaced and written to, one entry or a whole batch at a time, and each of these
operations may be refused.  However long this goes on, all that can be observed of the store is
fixed by the log of what was written since it was last replaced.

`run` carries a list of operations out, `written` reads the log off the same list without a store,
and `observes_written` says that every observer of the store agrees with the log.
-/

namespace ScopedAuth.Store

/-- The operations that create a store or write to one. -/
inductive Operation where
  /-- A new store without entries. -/
  | new
  /-- A new store of one entry. -/
  | single (target : Target) (entry : Entry)
  /-- A new store of a batch. -/
  | ofBatch (batch : Batch)
  /-- One more entry. -/
  | insert (target : Target) (entry : Entry)
  /-- One more batch. -/
  | extend (batch : Batch)

namespace Operation

/-- Carries an operation out on a store, or refuses it. -/
def step {family : Family} (store : Store family) : Operation → Except StoreError (Store family)
  | .new => .ok .empty
  | .single target entry => Store.singleton target entry
  | .ofBatch batch => Store.ofBatch batch
  | .insert target entry => (·.1) <$> store.insert target entry
  | .extend batch => (·.1) <$> store.extend batch

/-- The store after an operation; one that is refused leaves it as it is. -/
def after {family : Family} (store : Store family) (op : Operation) : Store family :=
  match op.step store with
  | .ok next => next
  | .error _ => store

/-- The items that an operation is to write, in order. -/
def items : Operation → Batch
  | .new => []
  | .single target entry | .insert target entry => [(target, some entry)]
  | .ofBatch batch | .extend batch => batch

/-- Whether an operation puts a new store in place of the old one. -/
def replaces : Operation → Bool
  | .new | .single _ _ | .ofBatch _ => true
  | .insert _ _ | .extend _ => false

/-- The log after an operation.  It stays as it is if an item has too few fields for the family;
otherwise the items are written to it, or to an empty log if the store is replaced. -/
def record (family : Family) (log : WriteLog Entry) (op : Operation) : WriteLog Entry :=
  if op.items.Full family then (if op.replaces then [] else log) ++ op.items.writes else log

end Operation

/-- The store that a sequence of operations ends with, starting from an empty one. -/
def run (family : Family) (ops : List Operation) : Store family :=
  ops.foldl Operation.after empty

/-- The log of what a sequence of operations writes after the last replacement. -/
def written (family : Family) (ops : List Operation) : WriteLog Entry :=
  ops.foldl (Operation.record family) []

/-! ### One operation -/

variable {family : Family}

/-- A single item is full exactly if its entry has enough fields. -/
lemma full_single {target : Target} {entry : Entry} :
    Batch.Full family [(target, some entry)] ↔ family.arity ≤ entry.identity.size := by
  rw [Batch.full_cons_some]
  exact and_iff_left (List.forall_mem_nil _)

/-- An operation whose items have enough fields is carried out, and its items reach the log. -/
lemma step_of_full {op : Operation} (h : op.items.Full family) (store : Store family) :
    ∃ next, op.step store = .ok next ∧
      ∀ log, store.Follows log → next.Follows (op.record family log) := by
  have hrecord : ∀ log, op.record family log =
      (if op.replaces then [] else log) ++ op.items.writes := fun log => if_pos h
  simp only [hrecord]
  cases op with
  | new => exact ⟨empty, rfl, fun _ _ => follows_empty⟩
  | single target entry =>
    have hentry := full_single.mp h
    exact ⟨empty.put target ⟨entry, hentry⟩, singleton_of_le hentry target,
      fun _ _ => follows_empty.put target _⟩
  | ofBatch batch =>
    have hbatch : batch.Full family := h
    obtain ⟨next, hnext, hfollows⟩ := ofBatch_of_full hbatch
    exact ⟨next, hnext, fun _ _ => hfollows⟩
  | insert target entry =>
    have hentry := full_single.mp h
    refine ⟨store.put target ⟨entry, hentry⟩, ?_, fun log hlog => hlog.put target _⟩
    rw [Operation.step, insert_of_le hentry]
    rfl
  | extend batch =>
    have hbatch : batch.Full family := h
    obtain ⟨next, hnext, hfollows⟩ := extend_of_full hbatch store
    refine ⟨next, ?_, hfollows⟩
    rw [Operation.step, hnext]
    rfl

/-- An operation with an item that has too few fields is refused. -/
lemma step_of_not_full {op : Operation} (h : ¬ op.items.Full family) (store : Store family) :
    ∃ error, op.step store = .error error := by
  cases op with
  | new => exact absurd (List.forall_mem_nil _) h
  | single target entry => exact ⟨_, singleton_of_not_le (mt full_single.mpr h) target⟩
  | ofBatch batch =>
    have hbatch : ¬ batch.Full family := h
    exact ofBatch_of_not_full hbatch
  | insert target entry =>
    rw [Operation.step, insert_of_not_le (mt full_single.mpr h)]
    exact ⟨_, rfl⟩
  | extend batch =>
    have hbatch : ¬ batch.Full family := h
    obtain ⟨error, herror⟩ := extend_of_not_full hbatch store
    rw [Operation.step, herror]
    exact ⟨error, rfl⟩

/-- An operation is carried out exactly if its items have enough fields. -/
lemma exists_step_eq_ok_iff (op : Operation) (store : Store family) :
    (∃ next, op.step store = .ok next) ↔ op.items.Full family := by
  refine exists_eq_ok_iff (fun hfull => ?_) fun hfull => step_of_not_full hfull store
  obtain ⟨next, hnext, -⟩ := step_of_full hfull store
  exact ⟨next, hnext⟩

/-- An operation keeps the store in step with the log, whether it is refused or not. -/
lemma Follows.after {store : Store family} {log : WriteLog Entry} (h : store.Follows log)
    (op : Operation) : (op.after store).Follows (op.record family log) := by
  by_cases hfull : op.items.Full family
  · obtain ⟨next, hnext, hfollows⟩ := step_of_full hfull store
    rw [Operation.after, hnext]
    exact hfollows log h
  · obtain ⟨error, herror⟩ := step_of_not_full hfull store
    rw [Operation.after, herror, Operation.record, if_neg hfull]
    exact h

/-- After every sequence of operations the store follows the log. -/
lemma follows_written (ops : List Operation) : (run family ops).Follows (written family ops) := by
  induction ops using List.reverseRecOn with
  | nil => exact follows_empty
  | append_singleton ops op ih =>
    rw [run, written, List.foldl_append, List.foldl_append]
    exact ih.after op

/-! ### What can be observed -/

/-- Every observer of a store answers as a log says. -/
structure Observes (store : Store family) (log : WriteLog Entry) : Prop where
  /-- The entry for a target is the last one written under its text. -/
  get?_eq : ∀ target, store.get? target = log.last? target.text
  /-- There is an entry for a target if one is found for it, and only then. -/
  contains_iff_isSome_get? : ∀ target,
    store.contains target = true ↔ (store.get? target).isSome = true
  /-- There is an entry for a target if one was written under its text, and only then. -/
  contains_iff_mem : ∀ target, store.contains target = true ↔ target.text ∈ log.texts
  /-- An insertion gives back the entry that was found before. -/
  previous_eq : ∀ target entry next previous, store.insert target entry = .ok (next, previous) →
    previous = store.get? target
  /-- An insertion does not touch a target with another text, be its URL the same. -/
  get?_insert_of_ne : ∀ target entry next previous,
    store.insert target entry = .ok (next, previous) →
    ∀ other : Target, other.text ≠ target.text → next.get? other = log.last? other.text
  /-- There are as many entries as different texts. -/
  size_eq : store.size = log.texts.dedup.length
  /-- A store is empty if it has no entries, and only then. -/
  isEmpty_iff : store.isEmpty = true ↔ log.texts.dedup.length = 0
  /-- The targets are in strictly ascending order. -/
  pairwise_targets : store.targets.Pairwise (· < ·)
  /-- The targets are the texts that an entry was written under. -/
  mem_targets_iff : ∀ text, text ∈ store.targets ↔ text ∈ log.texts

/-- A store that follows a log answers as the log says. -/
lemma Follows.observes {store : Store family} {log : WriteLog Entry} (h : store.Follows log) :
    store.Observes log where
  get?_eq := h.get?_eq
  contains_iff_isSome_get? _ := Iff.rfl
  contains_iff_mem target := by
    rw [contains, h.get?_eq, WriteLog.isSome_last?_iff]
  previous_eq target entry next previous hinsert := by
    by_cases hentry : family.arity ≤ entry.identity.size
    · rw [insert_of_le hentry] at hinsert
      exact (Prod.mk.inj (Except.ok.inj hinsert)).2.symm
    · rw [insert_of_not_le hentry] at hinsert
      cases hinsert
  get?_insert_of_ne target entry next previous hinsert other hne := by
    by_cases hentry : family.arity ≤ entry.identity.size
    · rw [insert_of_le hentry] at hinsert
      rw [← (Prod.mk.inj (Except.ok.inj hinsert)).1, (h.put target ⟨entry, hentry⟩).get?_eq,
        WriteLog.last?_append, WriteLog.last?_singleton, if_neg hne, Option.none_or]
    · rw [insert_of_not_le hentry] at hinsert
      cases hinsert
  size_eq := TextMap.size_of_follows h
  isEmpty_iff := by
    rw [isEmpty, decide_eq_true_iff, size, TextMap.size_of_follows h]
  pairwise_targets := store.items.pairwise_keys
  mem_targets_iff := TextMap.mem_keys_of_follows h

/-- After every sequence of operations, refused ones among them, every observer of the store answers
by what was written last under each text since the store was last replaced; and an operation is
refused only for an item with too few fields. -/
theorem observes_written (family : Family) (ops : List Operation) :
    (run family ops).Observes (written family ops) ∧
      ∀ op : Operation, (∃ next, op.step (run family ops) = .ok next) ↔ op.items.Full family :=
  ⟨(follows_written ops).observes, fun op => exists_step_eq_ok_iff op (run family ops)⟩

/-- Two texts that spell the same URL are two targets. -/
example :
    ∃ one other : Target, one.url = other.url ∧
      (run .basic [.insert one ⟨⟨["alice"]⟩, ⟨"pw"⟩⟩, .insert other ⟨⟨["bob"]⟩, ⟨"pw"⟩⟩]).targets =
        ["http://h", "http://h/"] :=
  ⟨(Target.parse "http://h/").toOption.get (by decide +kernel),
    (Target.parse "http://h").toOption.get (by decide +kernel),
    by decide +kernel, by decide +kernel⟩

end ScopedAuth.Store
