import ScopedAuth.Family
import ScopedAuth.Identity
import ScopedAuth.Target
import ScopedAuth.TextMap

/-!
# Stores

A store maps targets to entries.  Only the text of a target counts, and every entry has at least the
fields that the family of the store needs.  A batch of entries is stored as a whole or not at all.
-/

namespace ScopedAuth

/-- Why nothing was stored. -/
inductive StoreError where
  | target (error : Target.Error)
  /-- An identity has fewer fields than its family needs. -/
  | identityTooShort (text : String) (family : Family) (actual : Nat)
  deriving DecidableEq

/-- The wording of an error. -/
def StoreError.message : StoreError → String
  | .target error => error.message
  | .identityTooShort text family actual =>
    "Credentials for " ++ text ++ " should contain at least " ++ toString family.arity ++
      " identity fields for " ++ family.name ++ " (" ++ family.layout ++ "), got " ++
      toString actual

/-- An entry with at least the fields that a family needs. -/
abbrev FullEntry (family : Family) :=
  { entry : Entry // family.arity ≤ entry.identity.size }

/-- Entries of a family by the texts of their targets. -/
structure Store (family : Family) where
  items : TextMap (FullEntry family)

/-- Targets with their entries; a target without one explicitly has no credentials. -/
abbrev Batch := List (Target × Option Entry)

namespace Store

variable {family : Family}

/-- The store without entries. -/
def empty : Store family :=
  ⟨.empty⟩

/-- The entry for a target. -/
def get? (store : Store family) (target : Target) : Option Entry :=
  (store.items.get? target.text).map (·.val)

/-- Whether there is an entry for a target. -/
def contains (store : Store family) (target : Target) : Bool :=
  (store.get? target).isSome

/-- The texts of all targets, in ascending order. -/
def targets (store : Store family) : List String :=
  store.items.keys

/-- How many entries there are. -/
def size (store : Store family) : Nat :=
  store.items.size

/-- Whether there are no entries. -/
def isEmpty (store : Store family) : Bool :=
  store.size = 0

/-- Refuses an entry with too few fields. -/
def check (family : Family) (target : Target) (entry : Entry) :
    Except StoreError (FullEntry family) :=
  if h : family.arity ≤ entry.identity.size then .ok ⟨entry, h⟩
  else .error (.identityTooShort target.text family entry.identity.size)

/-- Puts an entry under the text of a target, instead of the one that is there. -/
def put (store : Store family) (target : Target) (entry : FullEntry family) : Store family :=
  ⟨store.items.insert target.text entry⟩

/-- Adds an entry or replaces the one for the same target, which is given back. -/
def insert (store : Store family) (target : Target) (entry : Entry) :
    Except StoreError (Store family × Option Entry) := do
  return (store.put target (← check family target entry), store.get? target)

/-- The items of a batch that have an entry, provided that every one of those has enough fields; the
first that does not is reported. -/
def accept (family : Family) : Batch → Except StoreError (List (Target × FullEntry family))
  | [] => .ok []
  | (_, none) :: rest => accept family rest
  | (target, some entry) :: rest => do
    let entry ← check family target entry
    return (target, entry) :: (← accept family rest)

/-- Adds a batch, or nothing if one of its entries is refused; gives the number of entries added. -/
def extend (store : Store family) (batch : Batch) : Except StoreError (Store family × Nat) := do
  let accepted ← accept family batch
  return (accepted.foldl (fun store (target, entry) => store.put target entry) store,
    accepted.length)

/-- The store of a batch. -/
def ofBatch (batch : Batch) : Except StoreError (Store family) := do
  return (← (empty : Store family).extend batch).1

/-- The store of a single entry. -/
def singleton (target : Target) (entry : Entry) : Except StoreError (Store family) := do
  return (← (empty : Store family).insert target entry).1

/-- How a store is shown for inspection: its targets, but no entry. -/
def inspect (store : Store family) : String :=
  "CredentialStore \x7b family: " ++ Text.Quoted.text family.name ++ ", targets: [" ++
    ", ".intercalate (store.targets.map Target.inspect) ++ "] \x7d"

end Store

end ScopedAuth
