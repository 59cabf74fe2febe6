import ScopedAuth.Text.Percent
import ScopedAuth.Toml.Reader

/-!
# Numbers

Integers have 64 bits with a sign.  Numbers with a fraction or an exponent are held in double
precision; one that would be too large for it is refused, unless it is negative.
-/

namespace ScopedAuth.Toml.Reader

open ScopedAuth.Text

/-- Takes digits of a class, with single underscores between them. -/
def digits (p : Char → Bool) : Reader (List Char) := do
  return (← one p) :: (← many (optional (char '_') *> one p))

/-- The number that digits spell in a base. -/
def valueOf (base : Nat) (ds : List Char) : Nat :=
  ds.foldl (fun n d => base * n + (hexValue? d).getD 0) 0

/-- Takes a sign, if there is one, and tells whether it is a minus. -/
def sign : Reader Bool :=
  char '-' *> pure true <|> char '+' *> pure false <|> pure false

/-- Takes a decimal number without superfluous zeros in front. -/
def decimal : Reader (List Char) :=
  (do
    let first ← one fun c => '1' ≤ c && c ≤ '9'
    return first :: (← many (optional (char '_') *> one Char.isDigit)))
  <|> List.singleton <$> one (· = '0')

/-- Takes digits in the base that the characters in front announce. -/
def based (mark : String) (base : Nat) (p : Char → Bool) : Reader Int := do
  word mark
  return valueOf base (← digits p)

/-- The least integer that is too large; the least integer of all is as far from zero. -/
def integerBound : Int :=
  0x8000000000000000

/-- Takes an integer. -/
def integer : Reader Int := do
  let n ← based "0x" 16 isHexDigit <|> based "0o" 8 (fun c => '0' ≤ c && c ≤ '7')
    <|> based "0b" 2 (fun c => c = '0' || c = '1')
    <|> (do
      let negative ← sign
      let n : Int := valueOf 10 (← decimal)
      return if negative then -n else n)
  if -integerBound ≤ n ∧ n < integerBound then return n else failure

/-- The least number that no double stands for: half a unit above the largest double. -/
def doubleBound : Nat :=
  (Nat.pow 2 54 - 1) * Nat.pow 2 970

/-- Whether `n * 10 ^ exponent` is too large for double precision.  The number of its digits
decides, except near the bound. -/
def tooLarge (n : Nat) (exponent : Int) : Bool :=
  let size := (Nat.toDigits 10 n).length + exponent
  if n = 0 || size < 300 then false
  else if 320 < size then true
  else if 0 ≤ exponent then doubleBound ≤ n * Nat.pow 10 exponent.toNat
  else doubleBound * Nat.pow 10 (-exponent).toNat ≤ n

/-- Takes an exponent. -/
def exponent : Reader Int := do
  let _ ← one fun c => c = 'e' || c = 'E'
  let negative ← sign
  let n : Int := valueOf 10 (← digits Char.isDigit)
  return if negative then -n else n

/-- Takes a number with a fraction, an exponent or both. -/
def fractional : Reader Unit := do
  let negative ← sign
  let whole ← decimal
  let (fraction, exponent) ← (do return ([], ← exponent)) <|> (do
    char '.'
    let fraction ← digits Char.isDigit
    return (fraction, (← optional exponent).getD 0))
  let n := valueOf 10 (whole ++ fraction)
  if !negative && tooLarge n (exponent - fraction.length) then failure

/-- Takes a number with a fraction or an exponent, an infinity, or what is not a number. -/
def float : Reader Unit :=
  fractional <|> (do
    let _ ← sign
    word "inf" <|> word "nan")

end ScopedAuth.Toml.Reader
