/-!
# Percent escapes

A byte is escaped as a percent sign and two hexadecimal digits.
-/

namespace ScopedAuth.Text

/-- The value of a hexadecimal digit, in either case. -/
def hexValue? (c : Char) : Option Nat :=
  if c.isDigit then some (c.toNat - '0'.toNat)
  else if 'a' ≤ c ∧ c ≤ 'f' then some (c.toNat - 'a'.toNat + 10)
  else if 'A' ≤ c ∧ c ≤ 'F' then some (c.toNat - 'A'.toNat + 10)
  else none

/-- Whether a character is a hexadecimal digit. -/
def isHexDigit (c : Char) : Bool :=
  (hexValue? c).isSome

namespace Percent

/-- The digit for a value below sixteen, in upper case. -/
def digit (n : Nat) : Char :=
  if n < 10 then Char.ofNat ('0'.toNat + n) else Char.ofNat ('A'.toNat + (n - 10))

/-- The escape of a byte. -/
def escape (byte : UInt8) : List Char :=
  ['%', digit (byte.toNat / 16), digit (byte.toNat % 16)]

/-- Escapes the bytes of every character that `keep` does not keep. -/
def encode (keep : Char → Bool) (text : List Char) : List Char :=
  text.flatMap fun c => if keep c then [c] else (String.utf8EncodeChar c).flatMap escape

/-- Whether two hexadecimal digits follow every percent sign. -/
def wellFormed : List Char → Bool
  | [] => true
  | '%' :: a :: b :: rest => isHexDigit a && isHexDigit b && wellFormed rest
  | c :: rest => c != '%' && wellFormed rest

/-- The bytes of a text after its escapes are undone; a percent sign that starts no escape stands
for itself. -/
def decode : List Char → List UInt8
  | [] => []
  | '%' :: a :: b :: rest =>
    match hexValue? a, hexValue? b with
    | some x, some y => UInt8.ofNat (16 * x + y) :: decode rest
    | _, _ => String.utf8EncodeChar '%' ++ decode (a :: b :: rest)
  | c :: rest => String.utf8EncodeChar c ++ decode rest

/-- The characters of a text after its escapes are undone, unless the bytes are not UTF-8. -/
def decodeText? (text : List Char) : Option (List Char) :=
  if text.contains '%' then (String.fromUTF8? ⟨(decode text).toArray⟩).map String.toList
  else some text

end Percent

end ScopedAuth.Text
