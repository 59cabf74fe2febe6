import ScopedAuth.Text.Percent

/-!
# IPv6 addresses

An address has eight pieces of sixteen bits, written in hexadecimal between colons.  A double colon
stands once for one or more pieces of zero, and the last two pieces may be written as an IPv4
address.
-/

namespace ScopedAuth.Url.Ipv6

open ScopedAuth.Text

/-- The piece that one to four hexadecimal digits spell. -/
def piece? (digits : List Char) : Option Nat :=
  if digits.isEmpty ∨ 4 < digits.length then none
  else digits.foldlM (fun n c => (hexValue? c).map (16 * n + ·)) 0

/-- A decimal number below 256 without leading zeros. -/
def byte? (digits : List Char) : Option Nat :=
  if digits.isEmpty ∨ !digits.all Char.isDigit ∨ 3 < digits.length then none
  else if digits.head? = some '0' ∧ digits ≠ ['0'] then none
  else
    let n := digits.foldl (fun n c => n * 10 + (c.toNat - '0'.toNat)) 0
    if n < 256 then some n else none

/-- The two pieces that four decimal numbers between dots spell. -/
def dotted? (group : List Char) : Option (List Nat) :=
  match (group.splitOn '.').mapM byte? with
  | some [a, b, c, d] => some [a * 256 + b, c * 256 + d]
  | _ => none

/-- The pieces of groups; the last group may be dotted if `tail` allows it. -/
def pieces? (tail : Bool) : List (List Char) → Option (List Nat)
  | [] => some []
  | [group] =>
    if tail && group.contains '.' then dotted? group else (piece? group).map ([·])
  | group :: more => do
    let piece ← piece? group
    return piece :: (← pieces? tail more)

/-- The pieces on one side of a double colon, where there may be none. -/
def side? (tail : Bool) (text : List Char) : Option (List Nat) :=
  if text.isEmpty then some [] else pieces? tail (text.splitOn ':')

/-- Splits at the first double colon. -/
def splitDouble? : List Char → Option (List Char × List Char)
  | ':' :: ':' :: rest => some ([], rest)
  | c :: rest => (splitDouble? rest).map fun (before, after) => (c :: before, after)
  | [] => none

/-- The eight pieces of the address that a text spells. -/
def parse? (text : List Char) : Option (List Nat) :=
  match splitDouble? text with
  | none => (pieces? true (text.splitOn ':')).filter (·.length = 8)
  | some (before, after) => do
    let left ← side? false before
    let right ← side? true after
    if left.length + right.length ≤ 7 then
      some (left ++ List.replicate (8 - (left.length + right.length)) 0 ++ right)
    else none

/-- The length of the run of zeros that a list begins with. -/
def zeroRun (pieces : List Nat) : Nat :=
  (pieces.takeWhile (· = 0)).length

/-- The length of the longest run of zeros. -/
def longestRun : List Nat → Nat
  | [] => 0
  | piece :: rest => max (zeroRun (piece :: rest)) (longestRun rest)

/-- A piece in hexadecimal. -/
def pieceText (piece : Nat) : String :=
  String.ofList (Nat.toDigits 16 piece)

/-- Pieces with colons between them. -/
def joined (pieces : List Nat) : String :=
  ":".intercalate (pieces.map pieceText)

/-- Splits at the first run of exactly `length` zeros or more, dropping `length` of them. -/
def splitRun (length : Nat) : List Nat → List Nat × List Nat
  | [] => ([], [])
  | piece :: rest =>
    if length ≤ zeroRun (piece :: rest) then ([], (piece :: rest).drop length)
    else
      let (before, after) := splitRun length rest
      (piece :: before, after)

/-- An address as text: the first of the longest runs of two or more zeros is left out. -/
def text (pieces : List Nat) : String :=
  let run := longestRun pieces
  if run < 2 then joined pieces
  else
    let (before, after) := splitRun run pieces
    joined before ++ "::" ++ joined after

end ScopedAuth.Url.Ipv6
