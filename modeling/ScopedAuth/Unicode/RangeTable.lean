import ScopedAuth.Unicode.Bisection
import ScopedAuth.Unicode.Packed

/-!
# Tables by range of code points

A property that holds along runs of code points is kept as its runs in ascending order and looked
up by bisection.
-/

namespace ScopedAuth.Unicode

/-- A run of code points and what holds for it. -/
structure RangeTable.Row (α : Type) where
  first : Nat
  last : Nat
  value : α

/-- Runs of code points in ascending order, no two of which overlap. -/
structure RangeTable (α : Type) where
  rows : Array (RangeTable.Row α)

namespace RangeTable

variable {α : Type}

/-- Where a code point lies from a row. -/
def Row.place (n : Nat) (row : Row α) : Ordering :=
  if n < row.first then .lt else if row.last < n then .gt else .eq

/-- The row that holds a code point. -/
def row? (table : RangeTable α) (n : Nat) : Option (Row α) :=
  lookUp table.rows (Row.place n)

/-- The value of the row that holds a code point. -/
def find? (table : RangeTable α) (n : Nat) : Option α :=
  (table.row? n).map Row.value

/-- Whether some row holds a code point. -/
def contains (table : RangeTable α) (n : Nat) : Bool :=
  (table.row? n).isSome

/-- Reads rows that are written as the gap since the row before and the length less one. -/
def readSet (next : Nat) : List Nat → List (Row Unit)
  | gap :: len :: rest => ⟨next + gap, next + gap + len, ()⟩ :: readSet (next + gap + len + 1) rest
  | _ => []

/-- Reads rows that are written like those of a set, each followed by its value. -/
def readMap (next : Nat) : List Nat → List (Row Nat)
  | gap :: len :: value :: rest =>
    ⟨next + gap, next + gap + len, value⟩ :: readMap (next + gap + len + 1) rest
  | _ => []

/-- The set of code points that packed lines hold. -/
def ofPackedSet (lines : List String) : RangeTable Unit :=
  ⟨(readSet 0 (Packed.numbers lines)).toArray⟩

/-- The map from code points to numbers that packed lines hold. -/
def ofPackedMap (lines : List String) : RangeTable Nat :=
  ⟨(readMap 0 (Packed.numbers lines)).toArray⟩

end RangeTable

end ScopedAuth.Unicode
