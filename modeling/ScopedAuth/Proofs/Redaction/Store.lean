import ScopedAuth.Proofs.Store.Atomicity

/-!
# Stores without their passwords

To redact is to forget the passwords and to keep all else.  Whatever a store does, its redaction
does with the redacted entries: it finds the redacted entry (`get?_redact`), lists the same targets
(`targets_redact`), and accepts or refuses the same batches, with the same error (`extend_redact`).
-/

namespace ScopedAuth

/-- What is found among values that are passed through a function. -/
lemma lookup_map_snd {κ α β : Type} [BEq κ] (f : α → β) (entries : List (κ × α)) (key : κ) :
    (entries.map fun entry => (entry.1, f entry.2)).lookup key = (entries.lookup key).map f := by
  induction entries with
  | nil => rfl
  | cons entry rest ih =>
    rw [List.map_cons, List.lookup_cons, List.lookup_cons, ih]
    cases key == entry.1 with
    | true => rfl
    | false => rfl

namespace TextMap

variable {α β : Type}

/-- The map with the same texts whose values are passed through a function. -/
def map (f : α → β) (items : TextMap α) : TextMap β :=
  ⟨items.entries.map fun entry => (entry.1, f entry.2), List.pairwise_map.mpr items.ascending⟩

/-- What is found under a text is passed through the function. -/
@[simp] lemma get?_map (f : α → β) (items : TextMap α) (text : String) :
    (items.map f).get? text = (items.get? text).map f :=
  lookup_map_snd f items.entries text

/-- The texts stay. -/
@[simp] lemma keys_map (f : α → β) (items : TextMap α) : (items.map f).keys = items.keys := by
  rw [keys, keys, map, List.map_map]
  rfl

/-- The number of entries stays. -/
@[simp] lemma size_map (f : α → β) (items : TextMap α) : (items.map f).size = items.size :=
  List.length_map _

/-- What is inserted is passed through the function, too. -/
lemma map_insert (f : α → β) (items : TextMap α) (text : String) (value : α) :
    (items.insert text value).map f = (items.map f).insert text (f value) := by
  refine ext_get? fun other => ?_
  rw [get?_map, get?_insert, get?_insert, get?_map]
  split
  · rfl
  · rfl

end TextMap

/-- The entry without its password. -/
def Entry.redact (entry : Entry) : Entry :=
  { entry with password := entry.password.wipe }

/-- An entry keeps its fields when its password is forgotten. -/
def FullEntry.redact {family : Family} (entry : FullEntry family) : FullEntry family :=
  ⟨entry.val.redact, entry.property⟩

/-- The batch without its passwords. -/
def Batch.redact (batch : Batch) : Batch :=
  batch.map fun item => (item.1, item.2.map Entry.redact)

namespace Store

variable {family : Family}

/-- The store without its passwords. -/
def redact (store : Store family) : Store family :=
  ⟨store.items.map FullEntry.redact⟩

/-- The redacted store has the redacted entries. -/
@[simp] lemma get?_redact (store : Store family) (target : Target) :
    store.redact.get? target = (store.get? target).map Entry.redact := by
  rw [get?, get?, redact, TextMap.get?_map, Option.map_map, Option.map_map]
  rfl

/-- The redacted store has entries for the same targets. -/
@[simp] lemma contains_redact (store : Store family) (target : Target) :
    store.redact.contains target = store.contains target := by
  rw [contains, contains, get?_redact, Option.isSome_map]

/-- The redacted store lists the same targets. -/
@[simp] lemma targets_redact (store : Store family) : store.redact.targets = store.targets :=
  TextMap.keys_map _ _

/-- The redacted store has as many entries. -/
@[simp] lemma size_redact (store : Store family) : store.redact.size = store.size :=
  TextMap.size_map _ _

/-- The redaction of an empty store is empty. -/
lemma redact_empty : (empty : Store family).redact = empty :=
  rfl

/-- What is put into a store is redacted with it. -/
lemma redact_put (store : Store family) (target : Target) (entry : FullEntry family) :
    (store.put target entry).redact = store.redact.put target entry.redact :=
  congrArg Store.mk (TextMap.map_insert _ _ _ _)

/-- The redacted store is empty if the store is. -/
lemma isEmpty_redact (store : Store family) : store.redact.isEmpty = store.isEmpty := by
  rw [isEmpty, isEmpty, size_redact]

/-- The redacted store is shown as the store is. -/
lemma inspect_redact (store : Store family) : store.redact.inspect = store.inspect := by
  unfold inspect
  rw [targets_redact]

/-- A redacted entry passes if the entry does, and is refused with the same error. -/
lemma check_redact (target : Target) (entry : Entry) :
    check family target entry.redact = (check family target entry).map FullEntry.redact := by
  by_cases h : family.arity ≤ entry.identity.size
  · have hredact : family.arity ≤ entry.redact.identity.size := h
    rw [check_of_le h, check_of_le hredact]
    rfl
  · have hredact : ¬ family.arity ≤ entry.redact.identity.size := h
    rw [check_of_not_le h, check_of_not_le hredact]
    rfl

/-- A redacted entry is inserted into a redacted store as the entry into the store, or refused with
the same error. -/
lemma insert_redact (store : Store family) (target : Target) (entry : Entry) :
    store.redact.insert target entry.redact =
      (store.insert target entry).map fun (next, previous) =>
        (next.redact, previous.map Entry.redact) := by
  rw [insert, insert, check_redact, get?_redact]
  cases check family target entry with
  | error error => rfl
  | ok full =>
    change Except.ok (store.redact.put target (FullEntry.redact full), _) =
      Except.ok ((store.put target full).redact, _)
    rw [redact_put]

/-- The store of a redacted entry is that of the entry, redacted. -/
lemma singleton_redact (target : Target) (entry : Entry) :
    (singleton target entry.redact : Except StoreError (Store family)) =
      (singleton target entry).map Store.redact := by
  rw [singleton, singleton, ← redact_empty, insert_redact, redact_empty]
  cases (empty : Store family).insert target entry with
  | error error => rfl
  | ok result => rfl

/-- A batch is added to a redacted store as to the store itself, or refused with the same error. -/
lemma extend_redact (store : Store family) (batch : Batch) :
    store.redact.extend batch.redact =
      (store.extend batch).map fun (next, n) => (next.redact, n) := by
  induction batch generalizing store with
  | nil => rfl
  | cons item rest ih =>
    obtain ⟨target, _ | entry⟩ := item
    · exact ih store
    · by_cases h : family.arity ≤ entry.identity.size
      · have hredact : family.arity ≤ entry.redact.identity.size := h
        rw [extend_cons_of_le h]
        change store.redact.extend ((target, some entry.redact) :: Batch.redact rest) = _
        rw [extend_cons_of_le hredact]
        change Except.map _ ((store.redact.put target (FullEntry.redact ⟨entry, h⟩)).extend _) = _
        rw [← redact_put, ih]
        cases (store.put target ⟨entry, h⟩).extend rest with
        | error error => rfl
        | ok result => rfl
      · rw [extend_cons_of_not_le h]
        have hredact : ¬ family.arity ≤ entry.redact.identity.size := h
        exact extend_cons_of_not_le hredact store.redact target _

/-- The store of a redacted batch is that of the batch, redacted. -/
lemma ofBatch_redact (batch : Batch) :
    (ofBatch batch.redact : Except StoreError (Store family)) =
      (ofBatch batch).map Store.redact := by
  rw [ofBatch_eq_map_extend, ofBatch_eq_map_extend, ← redact_empty, extend_redact, redact_empty]
  cases (empty : Store family).extend batch with
  | error error => rfl
  | ok result => rfl

end Store

end ScopedAuth
