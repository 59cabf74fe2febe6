import ScopedAuth.Json.Basic
import ScopedAuth.Text.Percent

/-!
# Reading JSON

A document is read from left to right, and nothing but blanks may be left over (`Json.read?`).  What
is read is standard JSON, with nothing added to it: blanks are four characters, a number has no
needless zeros in front, and a string holds no bare control character.

The depth of a document is bounded by its length, which is what the readers of nested values are
given to count down from.
-/

namespace ScopedAuth.Json

/-! ### Blanks -/

/-- A character that may stand between the parts of a document. -/
def isBlank (c : Char) : Bool :=
  c = ' ' || c = '\t' || c = '\n' || c = '\r'

/-- A text behind its blanks. -/
def skip (text : List Char) : List Char :=
  text.dropWhile isBlank

/-! ### Strings -/

/-- What a letter behind a backslash stands for. -/
def shortEscape? : Char → Option Char
  | '"' => some '"'
  | '\\' => some '\\'
  | '/' => some '/'
  | 'b' => some '\x08'
  | 'f' => some '\x0C'
  | 'n' => some '\n'
  | 'r' => some '\r'
  | 't' => some '\t'
  | _ => none

/-- A number below 65536 in four hexadecimal digits. -/
def readUnit? : List Char → Option (Nat × List Char)
  | a :: b :: c :: d :: rest => do
    let high := 16 * (← Text.hexValue? a) + (← Text.hexValue? b)
    let low := 16 * (← Text.hexValue? c) + (← Text.hexValue? d)
    return (256 * high + low, rest)
  | _ => none

/-- The character behind `\u`.  One beyond the first 65536 is written as a pair of such escapes, and
neither half of a pair stands alone. -/
def readUnicode? (text : List Char) : Option (Char × List Char) := do
  let (unit, rest) ← readUnit? text
  if unit < 0xD800 ∨ 0xE000 ≤ unit then return (Char.ofNat unit, rest)
  else if unit < 0xDC00 then
    match rest with
    | '\\' :: 'u' :: rest => do
      let (second, rest) ← readUnit? rest
      if 0xDC00 ≤ second ∧ second < 0xE000 then
        return (Char.ofNat (0x10000 + 0x400 * (unit - 0xD800) + (second - 0xDC00)), rest)
      else none
    | _ => none
  else none

/-- The character that an escape stands for, behind its backslash. -/
def readEscape? : List Char → Option (Char × List Char)
  | [] => none
  | c :: rest => if c = 'u' then readUnicode? rest else (shortEscape? c).map (·, rest)

/-- A character of a string. -/
def readChar? : List Char → Option (Char × List Char)
  | [] => none
  | c :: rest =>
    if c = '\\' then readEscape? rest
    else if c = '"' ∨ c.toNat < 0x20 then none
    else some (c, rest)

/-- The characters of a string, up to the quote that ends it. -/
def readChars? : Nat → List Char → Option (List Char × List Char)
  | fuel + 1, c :: text =>
    if c = '"' then some ([], text)
    else do
      let (first, rest) ← readChar? (c :: text)
      let (more, rest) ← readChars? fuel rest
      return (first :: more, rest)
  | _, _ => none

/-- A string. -/
def readString? : List Char → Option (String × List Char)
  | '"' :: text => (readChars? text.length text).map fun (value, rest) =>
      (String.ofList value, rest)
  | _ => none

/-! ### Numbers and words -/

/-- A character of a number. -/
def isNumberChar (c : Char) : Bool :=
  c.isDigit || c = '-' || c = '+' || c = '.' || c = 'e' || c = 'E'

/-- Digits, at least one of them. -/
def isDigits (text : List Char) : Bool :=
  !text.isEmpty && text.all Char.isDigit

/-- An integer without a sign: no zero stands in front of another digit. -/
def isWhole (text : List Char) : Bool :=
  isDigits text && (text.length = 1 || text.head? != some '0')

/-- The exponent of a number, if there is one. -/
def isExponent : List Char → Bool
  | [] => true
  | c :: text => (c = 'e' || c = 'E') &&
    isDigits (if text.head? = some '+' ∨ text.head? = some '-' then text.tail else text)

/-- What follows the integer that a number begins with. -/
def isFractionExponent : List Char → Bool
  | '.' :: text =>
    isDigits (text.takeWhile Char.isDigit) && isExponent (text.dropWhile Char.isDigit)
  | text => isExponent text

/-- A number. -/
def isNumber (text : List Char) : Bool :=
  let unsigned := if text.head? = some '-' then text.tail else text
  text.all isNumberChar && isWhole (unsigned.takeWhile Char.isDigit) &&
    isFractionExponent (unsigned.dropWhile Char.isDigit)

/-- A number, which goes on as long as it can. -/
def readNumber? (text : List Char) : Option (Json × List Char) :=
  if isNumber (text.takeWhile isNumberChar) then
    some (.number (String.ofList (text.takeWhile isNumberChar)), text.dropWhile isNumberChar)
  else none

/-- One of the three words. -/
def readWord? : List Char → Option (Json × List Char)
  | 'n' :: 'u' :: 'l' :: 'l' :: rest => some (.null, rest)
  | 't' :: 'r' :: 'u' :: 'e' :: rest => some (.boolean true, rest)
  | 'f' :: 'a' :: 'l' :: 's' :: 'e' :: rest => some (.boolean false, rest)
  | _ => none

/-! ### Values -/

/-- The name of a member with its colon, up to the value. -/
def readKey? (text : List Char) : Option (String × List Char) := do
  let (key, rest) ← readString? text
  match skip rest with
  | ':' :: rest => return (key, skip rest)
  | _ => none

mutual

/-- A value, which begins right away. -/
def readValue? : Nat → List Char → Option (Json × List Char)
  | 0, _ => none
  | _ + 1, [] => none
  | fuel + 1, c :: text =>
    if c = '"' then (readString? (c :: text)).map fun (value, rest) => (.string value, rest)
    else if c = '[' then
      match skip text with
      | ']' :: rest => some (.array [], rest)
      | text => do
        let (element, rest) ← readValue? fuel text
        let (elements, rest) ← readElements? fuel (skip rest)
        return (.array (element :: elements), rest)
    else if c = '\x7b' then
      match skip text with
      | '\x7d' :: rest => some (.object [], rest)
      | text => do
        let (key, rest) ← readKey? text
        let (value, rest) ← readValue? fuel rest
        let (members, rest) ← readMembers? fuel (skip rest)
        return (.object ((key, value) :: members), rest)
    else if isNumberChar c then readNumber? (c :: text)
    else readWord? (c :: text)

/-- Further elements of an array, up to its end. -/
def readElements? : Nat → List Char → Option (List Json × List Char)
  | _ + 1, ']' :: rest => some ([], rest)
  | fuel + 1, ',' :: text => do
    let (element, rest) ← readValue? fuel (skip text)
    let (elements, rest) ← readElements? fuel (skip rest)
    return (element :: elements, rest)
  | _, _ => none

/-- Further members of an object, up to its end. -/
def readMembers? : Nat → List Char → Option (List (String × Json) × List Char)
  | _ + 1, '\x7d' :: rest => some ([], rest)
  | fuel + 1, ',' :: text => do
    let (key, rest) ← readKey? (skip text)
    let (value, rest) ← readValue? fuel rest
    let (members, rest) ← readMembers? fuel (skip rest)
    return ((key, value) :: members, rest)
  | _, _ => none

end

/-- The document that a text is, if it is one and nothing else. -/
def read? (text : String) : Option Json := do
  let (document, rest) ← readValue? text.length (skip text.toList)
  if skip rest = [] then return document else none

end ScopedAuth.Json
