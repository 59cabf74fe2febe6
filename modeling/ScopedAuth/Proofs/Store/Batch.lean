import ScopedAuth.Proofs.WriteLog
import ScopedAuth.Store

/-!
# What storing does to the log of a store

A store follows a log of entries if it holds under every text the entry written there last.  Each
way to change a store either is refused, for an entry with too few fields, or adds its entries to
the log, in order: one entry (`insert_of_le`, `insert_of_not_le`) or those of a whole batch
(`extend_of_full`, `extend_of_not_full`).
-/

namespace ScopedAuth

namespace Batch

/-- Every entry of the batch has the fields that a family needs. -/
def Full (family : Family) (batch : Batch) : Prop :=
  ∀ item ∈ batch, ∀ entry ∈ item.2, family.arity ≤ entry.identity.size

instance (family : Family) (batch : Batch) : Decidable (batch.Full family) :=
  inferInstanceAs (Decidable (∀ item ∈ batch, ∀ entry ∈ item.2, _))

/-- The entries of the batch under the texts of their targets. -/
def writes (batch : Batch) : WriteLog Entry :=
  batch.filterMap fun item => item.2.map fun entry => (item.1.text, entry)

/-- A target without an entry does not count. -/
lemma full_cons_none {family : Family} {target : Target} {rest : Batch} :
    Full family ((target, none) :: rest) ↔ rest.Full family := by
  rw [Full, List.forall_mem_cons]
  constructor
  · rintro ⟨-, hrest⟩
    exact hrest
  · intro hrest
    exact ⟨fun entry hentry => absurd hentry (Option.not_mem_none entry), hrest⟩

/-- An entry has to have enough fields itself. -/
lemma full_cons_some {family : Family} {target : Target} {entry : Entry} {rest : Batch} :
    Full family ((target, some entry) :: rest) ↔
      family.arity ≤ entry.identity.size ∧ rest.Full family := by
  rw [Full, List.forall_mem_cons]
  constructor
  · rintro ⟨hentry, hrest⟩
    exact ⟨hentry entry rfl, hrest⟩
  · rintro ⟨hentry, hrest⟩
    refine ⟨fun other hother => ?_, hrest⟩
    rw [← Option.some.inj hother]
    exact hentry

end Batch

namespace Store

variable {family : Family}

/-- After an entry is put into a store it is found for its target, and all else as before. -/
lemma get?_put (store : Store family) (target other : Target) (entry : FullEntry family) :
    (store.put target entry).get? other =
      if other.text = target.text then some entry.val else store.get? other := by
  rw [get?, put, TextMap.get?_insert]
  split
  · rfl
  · rfl

/-- The store holds under every text the entry that was written there last. -/
def Follows (store : Store family) (log : WriteLog Entry) : Prop :=
  store.items.Follows Subtype.val log

/-- The entry for a target is the one written last under its text. -/
lemma Follows.get?_eq {store : Store family} {log : WriteLog Entry} (h : store.Follows log)
    (target : Target) : store.get? target = log.last? target.text :=
  h target.text

/-- The empty store follows the empty log. -/
lemma follows_empty : (empty : Store family).Follows [] :=
  TextMap.follows_empty _

/-- Putting an entry into a store is one more write. -/
lemma Follows.put {store : Store family} {log : WriteLog Entry} (h : store.Follows log)
    (target : Target) (entry : FullEntry family) :
    (store.put target entry).Follows (log ++ [(target.text, entry.val)]) :=
  TextMap.Follows.insert h target.text entry

/-- Putting entries one after the other adds them to the log in order. -/
lemma Follows.foldl_put {store : Store family} {log : WriteLog Entry} (h : store.Follows log)
    (items : List (Target × FullEntry family)) :
    (items.foldl (fun store (target, entry) => store.put target entry) store).Follows
      (log ++ items.map fun item => (item.1.text, item.2.val)) := by
  induction items generalizing store log with
  | nil =>
    rw [List.map_nil, List.append_nil]
    exact h
  | cons item rest ih =>
    rw [List.foldl_cons, List.map_cons, List.append_cons]
    exact ih (h.put item.1 item.2)

/-! ### One entry -/

/-- An entry with enough fields passes. -/
lemma check_of_le {entry : Entry} (h : family.arity ≤ entry.identity.size) (target : Target) :
    check family target entry = .ok ⟨entry, h⟩ :=
  dif_pos h

/-- An entry with too few fields is refused. -/
lemma check_of_not_le {entry : Entry} (h : ¬ family.arity ≤ entry.identity.size)
    (target : Target) :
    check family target entry =
      .error (.identityTooShort target.text family entry.identity.size) :=
  dif_neg h

/-- An entry with enough fields is put into the store, and what was there is given back. -/
lemma insert_of_le {entry : Entry} (h : family.arity ≤ entry.identity.size)
    (store : Store family) (target : Target) :
    store.insert target entry = .ok (store.put target ⟨entry, h⟩, store.get? target) := by
  rw [insert, check_of_le h]
  rfl

/-- An entry with too few fields does not get into the store. -/
lemma insert_of_not_le {entry : Entry} (h : ¬ family.arity ≤ entry.identity.size)
    (store : Store family) (target : Target) :
    store.insert target entry =
      .error (.identityTooShort target.text family entry.identity.size) := by
  rw [insert, check_of_not_le h]
  rfl

/-! ### A batch -/

/-- All entries of a batch are accepted, in order, if each has enough fields. -/
lemma accept_of_full {batch : Batch} (h : batch.Full family) :
    ∃ items, accept family batch = .ok items ∧
      (items.map fun item => (item.1.text, item.2.val)) = batch.writes := by
  fun_induction accept family batch with
  | case1 => exact ⟨[], rfl, rfl⟩
  | case2 target rest ih =>
    obtain ⟨items, hitems, hwrites⟩ := ih (Batch.full_cons_none.mp h)
    exact ⟨items, hitems, hwrites⟩
  | case3 target entry rest ih =>
    obtain ⟨hentry, hrest⟩ := Batch.full_cons_some.mp h
    obtain ⟨items, hitems, hwrites⟩ := ih hrest
    refine ⟨(target, ⟨entry, hentry⟩) :: items, ?_, ?_⟩
    · rw [check_of_le hentry, hitems]
      rfl
    · rw [List.map_cons, hwrites]
      rfl

/-- A batch with an entry that has too few fields is refused. -/
lemma accept_of_not_full {batch : Batch} (h : ¬ batch.Full family) :
    ∃ error, accept family batch = .error error := by
  fun_induction accept family batch with
  | case1 => exact absurd (List.forall_mem_nil _) h
  | case2 target rest ih => exact ih fun hrest => h (Batch.full_cons_none.mpr hrest)
  | case3 target entry rest ih =>
    by_cases hentry : family.arity ≤ entry.identity.size
    · have hrest : ¬ Batch.Full family rest := fun hrest =>
        h (Batch.full_cons_some.mpr ⟨hentry, hrest⟩)
      obtain ⟨error, herror⟩ := ih hrest
      rw [check_of_le hentry, herror]
      exact ⟨error, rfl⟩
    · rw [check_of_not_le hentry]
      exact ⟨_, rfl⟩

/-- A batch whose entries all have enough fields is added to the log as a whole. -/
lemma extend_of_full {batch : Batch} (h : batch.Full family) (store : Store family) :
    ∃ extended, store.extend batch = .ok (extended, batch.writes.length) ∧
      ∀ log, store.Follows log → extended.Follows (log ++ batch.writes) := by
  obtain ⟨items, hitems, hwrites⟩ := accept_of_full h
  refine ⟨items.foldl (fun store (target, entry) => store.put target entry) store, ?_, ?_⟩
  · rw [extend, hitems, ← hwrites, List.length_map]
    rfl
  · intro log hlog
    rw [← hwrites]
    exact hlog.foldl_put items

/-- A batch with an entry that has too few fields does not get into the store. -/
lemma extend_of_not_full {batch : Batch} (h : ¬ batch.Full family) (store : Store family) :
    ∃ error, store.extend batch = .error error := by
  obtain ⟨error, herror⟩ := accept_of_not_full h
  rw [extend, herror]
  exact ⟨error, rfl⟩

/-! ### New stores -/

/-- The store of an entry with enough fields. -/
lemma singleton_of_le {entry : Entry} (h : family.arity ≤ entry.identity.size) (target : Target) :
    singleton target entry = .ok ((empty : Store family).put target ⟨entry, h⟩) := by
  rw [singleton, insert_of_le h]
  rfl

/-- There is no store of an entry with too few fields. -/
lemma singleton_of_not_le {entry : Entry} (h : ¬ family.arity ≤ entry.identity.size)
    (target : Target) :
    (singleton target entry : Except StoreError (Store family)) =
      .error (.identityTooShort target.text family entry.identity.size) := by
  rw [singleton, insert_of_not_le h]
  rfl

/-- The store of a batch whose entries all have enough fields follows the writes of the batch. -/
lemma ofBatch_of_full {batch : Batch} (h : batch.Full family) :
    ∃ store : Store family, ofBatch batch = .ok store ∧ store.Follows batch.writes := by
  obtain ⟨store, hstore, hfollows⟩ := extend_of_full h empty
  refine ⟨store, ?_, hfollows [] follows_empty⟩
  rw [ofBatch, hstore]
  rfl

/-- There is no store of a batch with an entry that has too few fields. -/
lemma ofBatch_of_not_full {batch : Batch} (h : ¬ batch.Full family) :
    ∃ error, (ofBatch batch : Except StoreError (Store family)) = .error error := by
  obtain ⟨error, herror⟩ := extend_of_not_full h (empty : Store family)
  rw [ofBatch, herror]
  exact ⟨error, rfl⟩

end Store

end ScopedAuth
