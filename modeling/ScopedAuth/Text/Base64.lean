/-!
# Base64

Bytes are written in groups of three as four of sixty-four characters; a last group of one or two
bytes is filled up with equals signs.
-/

namespace ScopedAuth.Text.Base64

/-- The character for a value below 64. -/
def symbol (n : Nat) : Char :=
  if n < 26 then Char.ofNat ('A'.toNat + n)
  else if n < 52 then Char.ofNat ('a'.toNat + (n - 26))
  else if n < 62 then Char.ofNat ('0'.toNat + (n - 52))
  else if n = 62 then '+'
  else '/'

/-- Encodes bytes, with padding. -/
def encode : List UInt8 → List Char
  | [] => []
  | [a] =>
    let n := a.toNat * 16
    [symbol (n / 64), symbol (n % 64), '=', '=']
  | [a, b] =>
    let n := (a.toNat * 256 + b.toNat) * 4
    [symbol (n / 64 / 64), symbol (n / 64 % 64), symbol (n % 64), '=']
  | a :: b :: c :: rest =>
    let n := (a.toNat * 256 + b.toNat) * 256 + c.toNat
    symbol (n / 64 / 64 / 64) :: symbol (n / 64 / 64 % 64) :: symbol (n / 64 % 64) ::
      symbol (n % 64) :: encode rest

/-- Encodes the bytes of a text. -/
def encodeText (s : String) : String :=
  String.ofList (encode (s.toList.flatMap String.utf8EncodeChar))

end ScopedAuth.Text.Base64
