import ScopedAuth.Unicode.GraphemeExtend
import ScopedAuth.Unicode.Unprintable

/-!
# Quoted text

How a character or a text is shown so that a reader sees exactly what it holds: between quotes, with
a backslash before what would end the quotation, and with the number of each character that has no
glyph of its own.
-/

namespace ScopedAuth.Text.Quoted

open ScopedAuth.Unicode

/-- Where a character stands, which decides whether a quote needs a backslash. -/
inductive Quote where
  | single
  | double
  deriving DecidableEq

/-- The quote itself. -/
def Quote.char : Quote → Char
  | .single => '\''
  | .double => '"'

/-- The number of a character, in hexadecimal. -/
def number (c : Char) : String :=
  "\\u\x7b" ++ String.ofList (Nat.toDigits 16 c.toNat) ++ "\x7d"

/-- A character inside quotes. -/
def shown (quote : Quote) (c : Char) : String :=
  if c = '\x00' then "\\0"
  else if c = '\t' then "\\t"
  else if c = '\n' then "\\n"
  else if c = '\r' then "\\r"
  else if c = '\\' then "\\\\"
  else if c = quote.char then String.ofList ['\\', c]
  else if extendsGrapheme c || isUnprintable c then number c
  else c.toString

/-- A character between single quotes. -/
def char (c : Char) : String :=
  "'" ++ shown .single c ++ "'"

/-- A text between double quotes. -/
def text (s : String) : String :=
  "\"" ++ String.join (s.toList.map (shown .double)) ++ "\""

end ScopedAuth.Text.Quoted
