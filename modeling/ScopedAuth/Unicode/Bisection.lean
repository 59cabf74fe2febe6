/-!
# Bisection

Looking up a row in an array of rows in ascending order.
-/

namespace ScopedAuth.Unicode

/-- Bisects the rows from `lo` up to but not including `hi`.  `place` says where the row sought
lies: before the row at hand, there, or behind it. -/
def bisect {α : Type} (rows : Array α) (place : α → Ordering) (lo hi : Nat) : Option α :=
  if lo < hi then
    match rows[(lo + hi) / 2]? with
    | none => none
    | some row =>
      match place row with
      | .lt => bisect rows place lo ((lo + hi) / 2)
      | .eq => some row
      | .gt => bisect rows place ((lo + hi) / 2 + 1) hi
  else none
termination_by hi - lo

/-- The row of an array that lies where `place` says. -/
def lookUp {α : Type} (rows : Array α) (place : α → Ordering) : Option α :=
  bisect rows place 0 rows.size

end ScopedAuth.Unicode
