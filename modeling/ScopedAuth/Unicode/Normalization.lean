import ScopedAuth.Unicode.Bisection
import ScopedAuth.Unicode.CombiningClass
import ScopedAuth.Unicode.Decomposition

/-!
# Normalization form C

Text is decomposed as far as it goes, the marks after each base character are put into the order of
their combining classes, and what can be composed is composed again.
-/

namespace ScopedAuth.Unicode

/-! ### Hangul syllables -/

namespace Hangul

/-- The first syllable, and the code points just before which vowels and trailing consonants
count. -/
def syllableBase : Nat := 0xAC00

/-- The first leading consonant. -/
def leadBase : Nat := 0x1100

/-- The first vowel. -/
def vowelBase : Nat := 0x1161

/-- The code point before the first trailing consonant. -/
def trailBase : Nat := 0x11A7

/-- How many leading consonants there are. -/
def leadCount : Nat := 19

/-- How many vowels there are. -/
def vowelCount : Nat := 21

/-- How many trailing consonants there are, counting none at all as one. -/
def trailCount : Nat := 28

/-- How many syllables there are. -/
def syllableCount : Nat := leadCount * vowelCount * trailCount

/-- The letters of a syllable, if the code point is one. -/
def decompose? (n : Nat) : Option (List Nat) :=
  if syllableBase ≤ n ∧ n < syllableBase + syllableCount then
    let index := n - syllableBase
    let lead := leadBase + index / (vowelCount * trailCount)
    let vowel := vowelBase + index % (vowelCount * trailCount) / trailCount
    let trail := index % trailCount
    some (if trail = 0 then [lead, vowel] else [lead, vowel, trailBase + trail])
  else none

/-- The syllable of a leading consonant and a vowel, or of an open syllable and a trailing
consonant. -/
def compose? (a b : Nat) : Option Nat :=
  if leadBase ≤ a ∧ a < leadBase + leadCount ∧ vowelBase ≤ b ∧ b < vowelBase + vowelCount then
    some (syllableBase + ((a - leadBase) * vowelCount + (b - vowelBase)) * trailCount)
  else if syllableBase ≤ a ∧ a < syllableBase + syllableCount ∧
      (a - syllableBase) % trailCount = 0 ∧ trailBase < b ∧ b < trailBase + trailCount then
    some (a + (b - trailBase))
  else none

end Hangul

/-! ### Decomposition -/

/-- The full canonical decomposition of a character. -/
def decomposeChar (c : Char) : List Char :=
  match Hangul.decompose? c.toNat with
  | some parts => parts.map Char.ofNat
  | none =>
    match lookUp decompositionTable (compare c.toNat ·.1) with
    | some (_, parts) => parts.map Char.ofNat
    | none => [c]

/-- Puts a mark behind the marks before it whose class is not greater. -/
def insertMark (mark : Char) : List Char → List Char
  | [] => [mark]
  | c :: rest =>
    if combiningClass mark < combiningClass c then mark :: c :: rest
    else c :: insertMark mark rest

/-- Sorts each run of marks by combining class, keeping the order of equals; `marks` is the run that
is being read. -/
def orderMarks (marks : List Char) : List Char → List Char
  | [] => marks
  | c :: rest =>
    if combiningClass c = 0 then marks ++ c :: orderMarks [] rest
    else orderMarks (insertMark c marks) rest

/-- Normalization form D: decomposed characters with their marks in order. -/
def decompose (cs : List Char) : List Char :=
  orderMarks [] (cs.flatMap decomposeChar)

/-! ### Composition -/

/-- Where a pair of code points lies from a row of the composition table. -/
def Composition.place (a b : Nat) (row : Composition) : Ordering :=
  (compare a row.first).then (compare b row.second)

/-- The character that two characters compose into. -/
def composePair? (a b : Char) : Option Char :=
  match Hangul.compose? a.toNat b.toNat with
  | some n => some (Char.ofNat n)
  | none =>
    (lookUp compositionTable (Composition.place a.toNat b.toNat)).map (Char.ofNat ·.composite)

/-- Composes ordered text.  `base` is the last base character, `blocked` are the marks after it that
did not compose, the latest first.  A character reaches the base if nothing stands between, or if
the mark before it has a smaller class. -/
def composeFrom (base : Char) (blocked : List Char) : List Char → List Char
  | [] => base :: blocked.reverse
  | c :: rest =>
    let reaches := match blocked with
      | [] => true
      | mark :: _ => combiningClass mark < combiningClass c
    match if reaches then composePair? base c else none with
    | some composite => composeFrom composite blocked rest
    | none =>
      if combiningClass c = 0 then base :: blocked.reverse ++ composeFrom c [] rest
      else composeFrom base (c :: blocked) rest

/-- Composes ordered text from its first base character on. -/
def compose : List Char → List Char
  | [] => []
  | c :: rest =>
    if combiningClass c = 0 then composeFrom c [] rest else c :: compose rest

/-- Normalization form C. -/
def normalize (cs : List Char) : List Char :=
  compose (decompose cs)

end ScopedAuth.Unicode
