/-!
# Packed numbers

Long tables of character properties are written as text: each number in base 32, the most
significant digit first, with the sixty-four characters `0`–`9`, `A`–`Z`, `a`–`z`, `-`, `_`.  The
first thirty-two end a number, the others stand for a digit that another follows.
-/

namespace ScopedAuth.Unicode.Packed

/-- The place of a character among the sixty-four. -/
def digit (c : Char) : Nat :=
  if c.isDigit then c.toNat - 48
  else if c.isUpper then c.toNat - 55
  else if c.isLower then c.toNat - 61
  else if c = '-' then 62
  else 63

/-- Reads the numbers of packed text from its characters; `pending` is what the digits of the number
that is being read come to so far. -/
def readNumbers (pending : Nat) : List Char → List Nat
  | [] => []
  | c :: rest =>
    let d := digit c
    if d < 32 then (pending * 32 + d) :: readNumbers 0 rest
    else readNumbers (pending * 32 + (d - 32)) rest

/-- The numbers that lines of packed text hold; a number may run on into the next line. -/
def numbers (lines : List String) : List Nat :=
  readNumbers 0 (lines.flatMap String.toList)

/-- Moves a code point by a signed distance, which is written `2 * d` upwards and `2 * d - 1`
downwards. -/
def shift (code : Nat) (distance : Nat) : Nat :=
  if distance % 2 = 0 then code + distance / 2 else code - (distance + 1) / 2

end ScopedAuth.Unicode.Packed
