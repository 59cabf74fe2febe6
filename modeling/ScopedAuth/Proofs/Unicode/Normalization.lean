import ScopedAuth.Proofs.Unicode.Tables
import ScopedAuth.Unicode.Normalization

/-!
# What normalisation leaves alone

A base character that neither is decomposed nor composes with one before it stays what it is, and
what stands in front of it is normalised as if it were not there (`normalize_append`).  The
characters of ASCII are such ones (`inert_of_lt`): they come second in no pair that composes.
-/

namespace ScopedAuth.Unicode

/-- A character is a base character that neither is decomposed nor composes with one before it. -/
structure Inert (c : Char) : Prop where
  decomposeChar_eq : decomposeChar c = [c]
  combiningClass_eq : combiningClass c = 0
  composePair?_eq : ∀ base, composePair? base c = none

/-! ### The tables -/

section Tables

set_option maxRecDepth 20000

/-- No character of ASCII is decomposed. -/
lemma decompositionTable_ascii :
    decompositionTable.toList.all (fun row => decide (128 ≤ row.1)) = true := by
  simp only [decompositionTable]
  rw [Packed.Spell.numbers_eq]
  rotate_left
  · repeat apply Packed.Spell.cons
    exact Packed.Spell.nil
  · decide +kernel

/-- No character of ASCII is a mark. -/
lemma combiningTable_ascii :
    combiningTable.rows.toList.all (fun row => decide (128 ≤ row.first)) = true := by
  simp only [combiningTable, RangeTable.ofPackedMap]
  rw [Packed.Spell.numbers_eq]
  rotate_left
  · repeat apply Packed.Spell.cons
    exact Packed.Spell.nil
  · decide +kernel

/-- No character of ASCII composes with one before it. -/
lemma compositionTable_ascii :
    compositionTable.toList.all (fun row => decide (128 ≤ row.second)) = true := by
  simp only [compositionTable]
  rw [Packed.Spell.numbers_eq]
  rotate_left
  · repeat apply Packed.Spell.cons
    exact Packed.Spell.nil
  · decide +kernel

end Tables

/-- The characters of ASCII are inert. -/
lemma inert_of_lt {c : Char} (h : c.toNat < 128) : Inert c := by
  have hdecomposition := List.all_eq_true.mp decompositionTable_ascii
  have hcombining := List.all_eq_true.mp combiningTable_ascii
  have hcomposition := List.all_eq_true.mp compositionTable_ascii
  simp only [decide_eq_true_eq] at hdecomposition hcombining hcomposition
  refine ⟨?_, ?_, fun base => ?_⟩
  · have hhangul : Hangul.decompose? c.toNat = none := by
      refine if_neg fun hrange => ?_
      unfold Hangul.syllableBase at hrange
      omega
    have hrow : lookUp decompositionTable (compare c.toNat ·.1) = none := by
      refine lookUp_eq_none fun row hrow hplace => ?_
      rw [Nat.compare_eq_eq] at hplace
      have hle := hdecomposition row hrow
      omega
    rw [decomposeChar, hhangul, hrow]
  · have hrow : combiningTable.row? c.toNat = none :=
      RangeTable.row?_eq_none fun row hrow => Or.inl (Nat.lt_of_lt_of_le h (hcombining row hrow))
    rw [combiningClass, RangeTable.find?, hrow]
    rfl
  · have hhangul : Hangul.compose? base.toNat c.toNat = none := by
      unfold Hangul.compose? Hangul.vowelBase Hangul.trailBase
      rw [if_neg (by omega), if_neg (by omega)]
    have hrow : lookUp compositionTable (Composition.place base.toNat c.toNat) = none := by
      refine lookUp_eq_none fun row hrow hplace => ?_
      rw [Composition.place, Ordering.then_eq_eq, Nat.compare_eq_eq, Nat.compare_eq_eq] at hplace
      have hle := hcomposition row hrow
      omega
    rw [composePair?, hhangul, hrow]
    rfl

/-! ### Inert text behind other text -/

section Behind

variable {tail : List Char} (h : ∀ c ∈ tail, Inert c)

include h

/-- Inert characters are their own decomposition. -/
lemma flatMap_decomposeChar : tail.flatMap decomposeChar = tail := by
  induction tail with
  | nil => rfl
  | cons c rest ih =>
    rw [List.forall_mem_cons] at h
    rw [List.flatMap_cons, h.1.decomposeChar_eq, ih h.2, List.singleton_append]

/-- An inert text ends a run of marks, and holds none itself. -/
lemma orderMarks_eq (marks : List Char) : orderMarks marks tail = marks ++ tail := by
  induction tail generalizing marks with
  | nil => exact (List.append_nil marks).symm
  | cons c rest ih =>
    rw [List.forall_mem_cons] at h
    rw [orderMarks, if_pos h.1.combiningClass_eq, ih h.2, List.nil_append]

/-- The marks in front of an inert text are put in order without it. -/
lemma orderMarks_append (marks front : List Char) :
    orderMarks marks (front ++ tail) = orderMarks marks front ++ tail := by
  induction front generalizing marks with
  | nil => exact orderMarks_eq h marks
  | cons c rest ih =>
    rw [List.cons_append, orderMarks, orderMarks]
    split
    · rw [ih, List.append_assoc, List.cons_append]
    · rw [ih]

/-- An inert text does not compose with a base before it. -/
lemma composeFrom_eq (base : Char) (blocked : List Char) :
    composeFrom base blocked tail = base :: blocked.reverse ++ tail := by
  induction tail generalizing base blocked with
  | nil => exact (List.append_nil _).symm
  | cons c rest ih =>
    rw [List.forall_mem_cons] at h
    unfold composeFrom
    simp only [h.1.composePair?_eq, ite_self, h.1.combiningClass_eq, if_true, ih h.2,
      List.reverse_nil, List.singleton_append]

/-- What stands behind a base in front of an inert text is composed without it. -/
lemma composeFrom_append (base : Char) (blocked front : List Char) :
    composeFrom base blocked (front ++ tail) = composeFrom base blocked front ++ tail := by
  induction front generalizing base blocked with
  | nil => exact composeFrom_eq h base blocked
  | cons c rest ih =>
    rw [List.cons_append]
    unfold composeFrom
    simp only [ih]
    split
    · rfl
    · split
      · rw [List.append_assoc]
      · rfl

/-- What stands in front of an inert text is composed without it. -/
lemma compose_append (front : List Char) : compose (front ++ tail) = compose front ++ tail := by
  induction front with
  | nil =>
    cases tail with
    | nil => rfl
    | cons c rest =>
      rw [List.forall_mem_cons] at h
      rw [List.nil_append]
      unfold compose
      rw [if_pos h.1.combiningClass_eq, composeFrom_eq h.2]
      rfl
  | cons c rest ih =>
    rw [List.cons_append]
    unfold compose
    rw [composeFrom_append h, ih]
    split
    · rfl
    · rfl

/-- What stands in front of an inert text is normalised without it. -/
lemma normalize_append (front : List Char) :
    normalize (front ++ tail) = normalize front ++ tail := by
  rw [normalize, decompose, List.flatMap_append, flatMap_decomposeChar h, orderMarks_append h,
    compose_append h, normalize, decompose]

end Behind

end ScopedAuth.Unicode
