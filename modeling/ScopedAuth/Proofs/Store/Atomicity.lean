import ScopedAuth.Proofs.Store.History

/-!
# A batch is stored as a whole or not at all

To add a batch comes to the same as to insert its entries one by one, as long as none of them is
refused: `extend_eq_map_insertEach` holds for the store, for the number of entries and for the error
alike.  The two differ in what a refusal leaves behind.  One by one, the entries in front of the
refused one are stored by then; a batch is looked through before any of it is stored.

What is reported is the first entry with too few fields, which `Batch.IsFirstShort` describes.
-/

namespace ScopedAuth

namespace Batch

/-- The entry for a target is the first of the batch that lacks fields which a family needs. -/
def IsFirstShort (family : Family) (batch : Batch) (target : Target) (entry : Entry) : Prop :=
  ∃ before after, batch = before ++ (target, some entry) :: after ∧ Full family before ∧
    entry.identity.size < family.arity

variable {family : Family} {batch : Batch}

/-- A batch that is not full has a first short entry. -/
lemma exists_isFirstShort (h : ¬ batch.Full family) :
    ∃ target entry, batch.IsFirstShort family target entry := by
  obtain ⟨before, ⟨target, _⟩, after, rfl, hbefore, hitem⟩ := exists_first_of_not_forall h
  simp only [not_forall] at hitem
  obtain ⟨entry, rfl, hshort⟩ := hitem
  exact ⟨target, entry, before, after, rfl, hbefore, Nat.lt_of_not_le hshort⟩

/-- A batch that is not full has an entry with too few fields. -/
lemma not_full_iff :
    ¬ batch.Full family ↔
      ∃ target entry, (target, some entry) ∈ batch ∧ entry.identity.size < family.arity := by
  constructor
  · intro h
    obtain ⟨target, entry, before, after, rfl, -, hshort⟩ := exists_isFirstShort h
    exact ⟨target, entry, List.mem_append_cons_self, hshort⟩
  · rintro ⟨target, entry, hitem, hshort⟩ hfull
    exact Nat.not_le_of_lt hshort (hfull _ hitem entry rfl)

/-- There are as many writes as items with an entry. -/
lemma length_writes (batch : Batch) : batch.writes.length = batch.countP (·.2.isSome) := by
  rw [writes, List.length_filterMap_eq_countP]
  simp only [Option.isSome_map]

end Batch

namespace Store

variable {family : Family}

/-- Inserts the entries of a batch one by one, until one is refused. -/
def insertEach (store : Store family) : Batch → Except StoreError (Store family)
  | [] => .ok store
  | (_, none) :: rest => store.insertEach rest
  | (target, some entry) :: rest => do
    let (next, _) ← store.insert target entry
    next.insertEach rest

/-! ### One item after the other -/

/-- A target without an entry changes nothing. -/
lemma extend_cons_none (store : Store family) (target : Target) (rest : Batch) :
    store.extend ((target, none) :: rest) = store.extend rest :=
  rfl

/-- An entry with enough fields is added in front of the rest, and counts. -/
lemma extend_cons_of_le {entry : Entry} (h : family.arity ≤ entry.identity.size)
    (store : Store family) (target : Target) (rest : Batch) :
    store.extend ((target, some entry) :: rest) =
      ((store.put target ⟨entry, h⟩).extend rest).map fun (next, n) => (next, n + 1) := by
  rw [extend, extend, accept, check_of_le h]
  cases accept family rest with
  | error error => rfl
  | ok items => rfl

/-- An entry with too few fields is reported, whatever comes behind it. -/
lemma extend_cons_of_not_le {entry : Entry} (h : ¬ family.arity ≤ entry.identity.size)
    (store : Store family) (target : Target) (rest : Batch) :
    store.extend ((target, some entry) :: rest) =
      .error (.identityTooShort target.text family entry.identity.size) := by
  rw [extend, accept, check_of_not_le h]
  rfl

/-- To add a batch comes to the same as to insert its entries one by one. -/
lemma extend_eq_map_insertEach (store : Store family) (batch : Batch) :
    store.extend batch = (store.insertEach batch).map (·, batch.writes.length) := by
  induction batch generalizing store with
  | nil => rfl
  | cons item rest ih =>
    obtain ⟨target, _ | entry⟩ := item
    · exact (extend_cons_none store target rest).trans (ih store)
    · by_cases h : family.arity ≤ entry.identity.size
      · rw [extend_cons_of_le h, ih, insertEach, insert_of_le h]
        change _ = ((store.put target ⟨entry, h⟩).insertEach rest).map
          (·, (Batch.writes rest).length + 1)
        cases (store.put target ⟨entry, h⟩).insertEach rest with
        | error error => rfl
        | ok next => rfl
      · rw [extend_cons_of_not_le h, insertEach, insert_of_not_le h]
        rfl

/-- A batch is refused for its first short entry. -/
lemma extend_of_isFirstShort {batch : Batch} {target : Target} {entry : Entry}
    (h : batch.IsFirstShort family target entry) (store : Store family) :
    store.extend batch =
      .error (.identityTooShort target.text family entry.identity.size) := by
  obtain ⟨before, after, rfl, hbefore, hshort⟩ := h
  induction before generalizing store with
  | nil => exact extend_cons_of_not_le (Nat.not_le_of_lt hshort) store target after
  | cons item before ih =>
    obtain ⟨other, _ | full⟩ := item
    · exact ih store (Batch.full_cons_none.mp hbefore)
    · obtain ⟨hfull, hbefore⟩ := Batch.full_cons_some.mp hbefore
      rw [List.cons_append, extend_cons_of_le hfull, ih _ hbefore]
      rfl

/-- An addition is refused for the first short entry of the batch, and for nothing else. -/
lemma extend_eq_error_iff (store : Store family) (batch : Batch) (error : StoreError) :
    store.extend batch = .error error ↔
      ∃ target entry, batch.IsFirstShort family target entry ∧
        error = .identityTooShort target.text family entry.identity.size := by
  constructor
  · intro h
    have hfull : ¬ batch.Full family := by
      intro hfull
      obtain ⟨next, hnext, -⟩ := extend_of_full hfull store
      rw [h] at hnext
      exact nomatch hnext
    obtain ⟨target, entry, hfirst⟩ := Batch.exists_isFirstShort hfull
    refine ⟨target, entry, hfirst, ?_⟩
    rw [extend_of_isFirstShort hfirst store] at h
    exact (Except.error.inj h).symm
  · rintro ⟨target, entry, hfirst, rfl⟩
    exact extend_of_isFirstShort hfirst store

/-- An addition is refused if an entry of the batch has too few fields, and only then. -/
lemma exists_extend_eq_error_iff (store : Store family) (batch : Batch) :
    (∃ error, store.extend batch = .error error) ↔
      ∃ target entry, (target, some entry) ∈ batch ∧ entry.identity.size < family.arity := by
  constructor
  · rintro ⟨error, herror⟩
    obtain ⟨target, entry, ⟨before, after, rfl, -, hshort⟩, -⟩ :=
      (extend_eq_error_iff store batch error).mp herror
    exact ⟨target, entry, List.mem_append_cons_self, hshort⟩
  · intro hshort
    exact extend_of_not_full (Batch.not_full_iff.mpr hshort) store

/-- An addition is carried out if every entry of the batch has enough fields, and only then. -/
lemma exists_extend_eq_ok_iff (store : Store family) (batch : Batch) :
    (∃ result, store.extend batch = .ok result) ↔ batch.Full family := by
  refine exists_eq_ok_iff (fun hfull => ?_) fun hfull => extend_of_not_full hfull store
  obtain ⟨next, hnext, -⟩ := extend_of_full hfull store
  exact ⟨_, hnext⟩

/-- A store of a batch is built if every entry has enough fields, and only then. -/
lemma exists_ofBatch_eq_ok_iff (batch : Batch) :
    (∃ next : Store family, ofBatch batch = .ok next) ↔ batch.Full family := by
  refine exists_eq_ok_iff (fun hfull => ?_) ofBatch_of_not_full
  obtain ⟨next, hnext, -⟩ := ofBatch_of_full hfull
  exact ⟨next, hnext⟩

/-- What an addition leaves behind: the store with all entries inserted, or the one that was there
before. -/
lemma after_extend (store : Store family) (batch : Batch) :
    (Operation.extend batch).after store = (store.insertEach batch).toOption.getD store := by
  rw [Operation.after, Operation.step, extend_eq_map_insertEach]
  cases store.insertEach batch with
  | error error => rfl
  | ok next => rfl

/-- A new store of a batch is the empty one with the batch added. -/
lemma ofBatch_eq_map_extend (batch : Batch) :
    (ofBatch batch : Except StoreError (Store family)) =
      ((empty : Store family).extend batch).map (·.1) := by
  rw [ofBatch]
  cases (empty : Store family).extend batch with
  | error error => rfl
  | ok result => rfl

/-- An addition is refused if an entry of the batch has too few fields, and only then; what it
reports is the first such entry, with the number of fields that are required and that there are, and
this is what to insert the entries one by one would report first.  A store to which a refused batch
was to be added is as it was before.  Otherwise it is the one that comes of inserting the entries
one by one, and they are counted, also where one replaces another.  A new store of a batch is
refused under the same condition, and has the same content as an empty one with the batch added. -/
theorem extend_eq_insertEach (store : Store family) (batch : Batch) :
    ((∃ error, store.extend batch = .error error) ↔
      ∃ target entry, (target, some entry) ∈ batch ∧ entry.identity.size < family.arity) ∧
    (∀ error, store.extend batch = .error error ↔
      ∃ target entry, batch.IsFirstShort family target entry ∧
        error = .identityTooShort target.text family entry.identity.size ∧
        error.message = "Credentials for " ++ target.text ++ " should contain at least " ++
          toString family.arity ++ " identity fields for " ++ family.name ++
          " (" ++ family.layout ++ "), got " ++ toString entry.identity.size) ∧
    store.extend batch = (store.insertEach batch).map (·, batch.countP (·.2.isSome)) ∧
    (Operation.extend batch).after store = (store.insertEach batch).toOption.getD store ∧
    (ofBatch batch : Except StoreError (Store family)) =
      ((empty : Store family).extend batch).map (·.1) ∧
    ((∃ next : Store family, ofBatch batch = .ok next) ↔
      ∃ result, store.extend batch = .ok result) := by
  refine ⟨exists_extend_eq_error_iff store batch, fun error => ?_, ?_, after_extend store batch,
    ofBatch_eq_map_extend batch, ?_⟩
  · rw [extend_eq_error_iff]
    constructor
    · rintro ⟨target, entry, hfirst, rfl⟩
      exact ⟨target, entry, hfirst, rfl, rfl⟩
    · rintro ⟨target, entry, hfirst, herror, -⟩
      exact ⟨target, entry, hfirst, herror⟩
  · rw [extend_eq_map_insertEach, Batch.length_writes]
  · rw [exists_ofBatch_eq_ok_iff, exists_extend_eq_ok_iff]

/-- A target that is listed twice counts twice, but is stored once. -/
example :
    let target := (Target.parse "https://a.example/").toOption.get (by decide +kernel)
    ((Store.empty : Store .basic).extend
      [(target, some ⟨⟨["alice"]⟩, ⟨"one"⟩⟩), (target, none),
        (target, some ⟨⟨["bob"]⟩, ⟨"two"⟩⟩)]).map
      (fun (next, n) => (next.size, n)) = .ok (1, 2) := by
  decide +kernel

end Store

end ScopedAuth
