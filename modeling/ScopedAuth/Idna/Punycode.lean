/-!
# Punycode

The encoding of a label with arbitrary characters as letters, digits and hyphens: the plain
characters of the label first, then a hyphen if there were any, then one number of variable length
for each other character, which says where it is inserted and how far its code point lies from the
one before.  The adaptive bias keeps the numbers short.
-/

namespace ScopedAuth.Idna.Punycode

/-- The number of digits. -/
def base : Nat := 36

/-- The least threshold at which a number may end. -/
def tMin : Nat := 1

/-- The greatest threshold at which a number may end. -/
def tMax : Nat := 26

/-- How slowly the bias grows. -/
def skew : Nat := 38

/-- By what the first distance is divided. -/
def damp : Nat := 700

/-- The bias before the first number. -/
def initialBias : Nat := 72

/-- The first code point that is not written plainly. -/
def initialCode : Nat := 128

/-- The greatest value that an encoder or decoder counts to. -/
def maxValue : Nat := 0xFFFFFFFF

/-- The threshold below which the digit at position `k` ends its number. -/
def threshold (k bias : Nat) : Nat :=
  if k ≤ bias + tMin then tMin else if bias + tMax ≤ k then tMax else k - bias

/-- Scales a distance down, counting the steps in `k`. -/
def scale (delta k : Nat) : Nat × Nat :=
  if (base - tMin) * tMax / 2 < delta then scale (delta / (base - tMin)) (k + base) else (delta, k)
termination_by delta
decreasing_by
  have : 0 < delta := by omega
  exact Nat.div_lt_self this (by decide)

/-- The bias after a number of value `delta` in a label of `points` characters. -/
def adapt (delta points : Nat) (first : Bool) : Nat :=
  let halved := if first then delta / damp else delta / 2
  let (rest, k) := scale (halved + halved / points) 0
  k + (base - tMin + 1) * rest / (rest + skew)

/-! ### Decoding -/

/-- The value of a digit; letters count as the same in either case. -/
def digitValue? (c : Char) : Option Nat :=
  if c.isLower then some (c.toNat - 97)
  else if c.isUpper then some (c.toNat - 65)
  else if c.isDigit then some (c.toNat - 48 + 26)
  else none

/-- Reads one number onto `i`; gives it with the rest of the digits. -/
def readNumber (i weight k bias : Nat) : List Char → Option (Nat × List Char)
  | [] => none
  | c :: rest =>
    match digitValue? c with
    | none => none
    | some digit =>
      let i := i + digit * weight
      if maxValue < i then none
      else
        let t := threshold k bias
        if digit < t then some (i, rest)
        else if maxValue < weight * (base - t) then none
        else readNumber i (weight * (base - t)) (k + base) bias rest

/-- Inserts the characters that the numbers stand for into the plain ones. -/
def insertAll (fuel code i bias : Nat) (done : List Char) (digits : List Char) :
    Option (List Char) :=
  match fuel, digits with
  | _, [] => some done
  | 0, _ => none
  | fuel + 1, digits =>
    match readNumber i 1 base bias digits with
    | none => none
    | some (next, rest) =>
      let points := done.length + 1
      let code := code + next / points
      if code.isValidChar then
        let place := next % points
        insertAll fuel code (place + 1) (adapt (next - i) points (i = 0))
          (done.take place ++ Char.ofNat code :: done.drop place) rest
      else none

/-- Splits at the last hyphen into what stands before and after; without one, all stands after. -/
def splitPlain (cs : List Char) : List Char × List Char :=
  let tail := (cs.reverse.takeWhile (· != '-')).reverse
  if tail.length = cs.length then ([], cs) else (cs.take (cs.length - tail.length - 1), tail)

/-- Decodes the part of a label behind its marker. -/
def decode? (cs : List Char) : Option (List Char) :=
  match splitPlain cs with
  | ([], _) => insertAll cs.length initialCode 0 initialBias [] cs
  | (plain, digits) =>
    if plain.all (·.toNat < initialCode) then
      insertAll digits.length initialCode 0 initialBias plain digits
    else none

/-! ### Encoding -/

/-- The character of a digit. -/
def digitChar (n : Nat) : Char :=
  if n < 26 then Char.ofNat (n + 97) else Char.ofNat (n - 26 + 48)

/-- Writes one number; `fuel` bounds the digits, and the number itself is more than enough. -/
def writeNumber (fuel q k bias : Nat) : List Char :=
  let t := threshold k bias
  match fuel with
  | 0 => [digitChar q]
  | fuel + 1 =>
    if q < t then [digitChar q]
    else
      digitChar (t + (q - t) % (base - t)) ::
        writeNumber fuel ((q - t) / (base - t)) (k + base) bias

/-- How far the encoder is: the distance not yet written, the bias, the characters handled and
whether one of them has been written as a number. -/
structure State where
  delta : Nat
  bias : Nat
  handled : Nat
  started : Bool

/-- Walks over the label once and writes each occurrence of `code`; characters below it move the
place of the next. -/
def writeCode (code : Nat) (state : State) : List Char → List Char × State
  | [] => ([], state)
  | c :: rest =>
    if c.toNat < code then writeCode code { state with delta := state.delta + 1 } rest
    else if c.toNat = code then
      let written := writeNumber state.delta state.delta base state.bias
      let (more, last) := writeCode code
        { delta := 0
          bias := adapt state.delta (state.handled + 1) (!state.started)
          handled := state.handled + 1
          started := true } rest
      (written ++ more, last)
    else writeCode code state rest

/-- Writes the code points of a list, in ascending order, one after the other. -/
def writeCodes (label : List Char) (code : Nat) (state : State) : List Nat → List Char
  | [] => []
  | next :: later =>
    let (written, last) := writeCode next
      { state with delta := state.delta + (next - code) * (state.handled + 1) } label
    written ++ writeCodes label (next + 1) { last with delta := last.delta + 1 } later

/-- Encodes a label, without a marker before it. -/
def encode (label : List Char) : List Char :=
  let plain := label.filter (·.toNat < initialCode)
  let codes := ((label.map Char.toNat).filter (initialCode ≤ ·)).mergeSort.eraseReps
  plain ++ (if plain.isEmpty then [] else ['-']) ++
    writeCodes label initialCode ⟨0, initialBias, plain.length, false⟩ codes

end ScopedAuth.Idna.Punycode
