import Mathlib.Data.Nat.Bitwise
import Mathlib.Tactic.Lemma
import ScopedAuth.Unicode.RangeTable

/-!
# Tables of characters

What can be said of all the rows of a table at once.  A row that bisection finds is one of the rows
(`bisect_eq_some`), so that nothing is found for a code point which no row holds.  The rows are read
from packed lines, and whether all of them meet a condition is computed from the characters of the
lines (`Packed.Spell`).  A set of code points is held against another by their bit maps.
-/

namespace ScopedAuth.Unicode

/-- A code point is the number of its character. -/
lemma toNat_ofNat {n : Nat} (h : n.isValidChar) : (Char.ofNat n).toNat = n := by
  rw [Char.ofNat, dif_pos h]
  rfl

/-! ### Bisection -/

section Bisection

variable {α : Type} {rows : Array α} {place : α → Ordering} {row : α}

/-- The row that is found lies where it is looked for. -/
lemma bisect_eq_some {lo hi : Nat} (h : bisect rows place lo hi = some row) :
    row ∈ rows.toList ∧ place row = .eq := by
  fun_induction bisect rows place lo hi with
  | case1 => exact nomatch h
  | case2 lo hi _ other hother _ ih => exact ih h
  | case3 lo hi _ other hother hplace =>
    rw [← Option.some.inj h]
    rw [← Array.getElem?_toList] at hother
    exact ⟨List.mem_of_getElem? hother, hplace⟩
  | case4 lo hi _ other hother _ ih => exact ih h
  | case5 => exact nomatch h

/-- Nothing is found that does not lie where it is looked for. -/
lemma lookUp_eq_none (h : ∀ row ∈ rows.toList, place row ≠ .eq) : lookUp rows place = none := by
  refine Option.eq_none_iff_forall_ne_some.mpr fun row hrow => ?_
  obtain ⟨hmem, hplace⟩ := bisect_eq_some hrow
  exact h row hmem hplace

end Bisection

/-- No row holds a code point that lies before or behind each of them. -/
lemma RangeTable.row?_eq_none {α : Type} {table : RangeTable α} {n : Nat}
    (h : ∀ row ∈ table.rows.toList, n < row.first ∨ row.last < n) : table.row? n = none := by
  refine lookUp_eq_none fun row hrow hplace => ?_
  rw [Row.place] at hplace
  split at hplace
  · exact nomatch hplace
  · next hfirst =>
    split at hplace
    · exact nomatch hplace
    · next hlast => exact (h row hrow).elim hfirst hlast

/-! ### Packed lines -/

namespace Packed

/-- The characters of packed lines, line after line. -/
inductive Spell : List String → List Char → Prop
  | nil : Spell [] []
  | cons {line : List Char} {lines : List String} {text : List Char} (h : Spell lines text) :
    Spell (String.ofList line :: lines) (line ++ text)

/-- The numbers that lines hold are read from their characters. -/
lemma Spell.numbers_eq {lines : List String} {text : List Char} (h : Spell lines text) :
    numbers lines = readNumbers 0 text := by
  rw [numbers]
  congr 1
  induction h with
  | nil => rfl
  | cons h ih => rw [List.flatMap_cons, String.toList_ofList, ih]

end Packed

/-! ### Bit maps -/

/-- The set of the numbers in a list, as the bits of one number. -/
def bitmap (points : List Nat) : Nat :=
  points.foldr (fun n bits => bits ||| 1 <<< n) 0

/-- A bit is set for each number of the list and no other. -/
lemma testBit_bitmap {points : List Nat} {n : Nat} :
    (bitmap points).testBit n = true ↔ n ∈ points := by
  induction points with
  | nil => simp [bitmap]
  | cons m rest ih =>
    rw [bitmap, List.foldr_cons, Nat.testBit_lor, Bool.or_eq_true, List.mem_cons, Nat.one_shiftLeft,
      Nat.testBit_two_pow, decide_eq_true_eq]
    exact or_comm.trans (or_congr eq_comm ih)

/-- Lists whose bit maps have no bit in common have no number in common. -/
lemma not_mem_of_land_bitmap {one other : List Nat} (h : bitmap one &&& bitmap other = 0) {n : Nat}
    (hn : n ∈ one) : n ∉ other := by
  intro hother
  have hbit : (bitmap one &&& bitmap other).testBit n = true := by
    rw [Nat.testBit_land, testBit_bitmap.mpr hn, testBit_bitmap.mpr hother]
    rfl
  rw [h, Nat.zero_testBit] at hbit
  exact nomatch hbit

end ScopedAuth.Unicode
