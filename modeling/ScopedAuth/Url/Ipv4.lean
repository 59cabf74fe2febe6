import ScopedAuth.Text.Percent

/-!
# IPv4 addresses

A host whose last label is a number is an IPv4 address: up to four numbers, decimal, octal after a
leading `0` or hexadecimal after `0x`, of which the last fills the bytes that the others leave.
-/

namespace ScopedAuth.Url.Ipv4

open ScopedAuth.Text

/-- The value of digits in a base. -/
def valueOf (base : Nat) (digits : List Char) : Nat :=
  digits.foldl (fun n c => n * base + (hexValue? c).getD 0) 0

/-- The number that a label spells, in the base that its beginning announces. -/
def number? (label : List Char) : Option Nat :=
  match label with
  | [] => none
  | '0' :: x :: digits =>
    if x = 'x' ∨ x = 'X' then
      if digits.all isHexDigit then some (valueOf 16 digits) else none
    else if (x :: digits).all (fun c => '0' ≤ c ∧ c ≤ '7') then some (valueOf 8 (x :: digits))
    else none
  | digits => if digits.all Char.isDigit then some (valueOf 10 digits) else none

/-- The labels of a host, without the empty one behind a final dot. -/
def labels (host : List Char) : List (List Char) :=
  match (host.splitOn '.').reverse with
  | [] :: rest => rest.reverse
  | all => all.reverse

/-- Whether a host is to be read as an address: its last label is all digits, or a number. -/
def endsInNumber (host : List Char) : Bool :=
  match (labels host).getLast? with
  | none => false
  | some last => (!last.isEmpty && last.all Char.isDigit) || (number? last).isSome

/-- The address of a list of numbers. -/
def ofNumbers? (numbers : List Nat) : Option Nat :=
  match numbers.reverse with
  | [] => none
  | last :: before =>
    if before.length ≤ 3 ∧ last < Nat.pow 256 (4 - before.length) ∧ before.all (· < 256) then
      some (before.reverse.foldl (fun n byte => n * 256 + byte) 0 *
        Nat.pow 256 (4 - before.length) + last)
    else none

/-- The address that a host spells. -/
def parse? (host : List Char) : Option Nat := do
  ofNumbers? (← (labels host).mapM number?)

/-- An address as four decimal numbers. -/
def text (address : Nat) : String :=
  ".".intercalate
    ([address / 0x1000000 % 256, address / 0x10000 % 256, address / 256 % 256, address % 256].map
      toString)

end ScopedAuth.Url.Ipv4
