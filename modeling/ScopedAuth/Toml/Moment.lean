import ScopedAuth.Toml.Number

/-!
# Dates and times

A date of the Gregorian calendar, a time of day, or both, and then possibly an offset from universal
time.
-/

namespace ScopedAuth.Toml.Reader

/-- Takes a number of exactly so many digits, within bounds. -/
def bounded (count least most : Nat) : Reader Nat := do
  let ds ← (List.replicate count ()).mapM fun _ => one Char.isDigit
  let n := valueOf 10 ds
  if least ≤ n ∧ n ≤ most then return n else failure

/-- How many days a month has. -/
def daysIn (year month : Nat) : Nat :=
  if month = 2 then
    if year % 4 = 0 ∧ (year % 100 ≠ 0 ∨ year % 400 = 0) then 29 else 28
  else if month = 4 ∨ month = 6 ∨ month = 9 ∨ month = 11 then 30
  else 31

/-- Takes a date. -/
def date : Reader Unit := do
  let year ← bounded 4 0 9999
  char '-'
  let month ← bounded 2 1 12
  char '-'
  let _ ← bounded 2 1 (daysIn year month)

/-- Takes hours and minutes. -/
def hourMinute : Reader Unit := do
  let _ ← bounded 2 0 23
  char ':'
  let _ ← bounded 2 0 59

/-- Takes a time of day; the sixtieth second of a minute may be a leap second. -/
def time : Reader Unit := do
  hourMinute
  char ':'
  let _ ← bounded 2 0 60
  let _ ← optional (char '.' *> run1 Char.isDigit)

/-- Takes an offset from universal time. -/
def offset : Reader Unit :=
  one (fun c => c = 'Z' || c = 'z') *> pure () <|> one (fun c => c = '+' || c = '-') *> hourMinute

/-- Takes a date, a time, or a date with a time. -/
def moment : Reader Unit :=
  (do
    date
    let _ ← optional (do
      let _ ← one fun c => c = 'T' || c = 't' || c = ' '
      time
      let _ ← optional offset))
  <|> time

end ScopedAuth.Toml.Reader
