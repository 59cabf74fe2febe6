/-!
# Values and tables

The values of TOML, and the rules that say which keys a table still accepts.  A table may be spread
over a document: a header opens it, a longer header or a dotted key implies it.  How it came to be
decides what may be added to it, so every table and array keeps that mark.

Main definitions: `assign` adds a value under a dotted key, `atHeader` changes what a header names.
-/

namespace ScopedAuth.Toml

/-- How a table or an array came to be. -/
inductive Origin where
  /-- Opened by a header of its own. -/
  | header
  /-- Implied by a header that goes on behind it. -/
  | implied
  /-- Implied by a dotted key. -/
  | dotted
  /-- Written between braces or brackets, and complete. -/
  | inline
  deriving DecidableEq

/-- A value.  Of a number with a fraction or an exponent and of a date or time only the kind is
kept. -/
inductive Value where
  | string (text : String)
  | integer (number : Int)
  | float
  | boolean (value : Bool)
  | moment
  | array (origin : Origin) (elements : List Value)
  | table (origin : Origin) (entries : List (String × Value))

/-- The entries of a table, in the order in which their keys first appear. -/
abbrev Entries := List (String × Value)

/-- Puts a value in the place of the one with the same key, or at the end. -/
def put (key : String) (value : Value) : Entries → Entries
  | [] => [(key, value)]
  | (other, old) :: rest =>
    if other = key then (key, value) :: rest else (other, old) :: put key value rest

/-- Changes the last element, which must be a table. -/
def atLast (change : Entries → Option Entries) : List Value → Option (List Value)
  | [] => none
  | [.table origin entries] => do return [.table origin (← change entries)]
  | [_] => none
  | element :: rest => do return element :: (← atLast change rest)

/-- Adds a value under a dotted key; `takes` says whether the table at hand takes values itself.
Tables that are missing on the way are implied, and take values.  The way may pass through tables
that are only implied and through the last table of an array that headers made, none of which takes
values itself.  A key has one value only. -/
def assign (value : Value) (takes : Bool) : List String → Entries → Option Entries
  | [], _ => none
  | [key], entries =>
    if takes && (entries.lookup key).isNone then some (entries ++ [(key, value)]) else none
  | key :: next :: path, entries => do
    let inner ← match entries.lookup key with
      | none => Value.table .dotted <$> assign value true (next :: path) []
      | some (.table .dotted inner) =>
        Value.table .dotted <$> assign value true (next :: path) inner
      | some (.table .implied inner) =>
        Value.table .implied <$> assign value false (next :: path) inner
      | some (.array .header elements) =>
        Value.array .header <$> atLast (assign value false (next :: path)) elements
      | some _ => none
    return put key inner entries

/-- Changes what the key of a header names, or gives it a value if there is none.  Tables that are
missing on the way are implied; the way may pass through every table that is not complete. -/
def atHeader (change : Option Value → Option Value) : List String → Entries → Option Entries
  | [], _ => none
  | [key], entries => do return put key (← change (entries.lookup key)) entries
  | key :: next :: path, entries => do
    let inner ← match entries.lookup key with
      | none => Value.table .implied <$> atHeader change (next :: path) []
      | some (.table .inline _) => none
      | some (.table origin inner) => Value.table origin <$> atHeader change (next :: path) inner
      | some (.array .header elements) =>
        Value.array .header <$> atLast (atHeader change (next :: path)) elements
      | some _ => none
    return put key inner entries

end ScopedAuth.Toml
