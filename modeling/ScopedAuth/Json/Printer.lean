import ScopedAuth.Json.Basic

/-!
# Printing JSON

Documents are printed over several lines: each element of an array and each member of an object
stands on a line of its own, two blanks further in than what holds it.  Inside a string only quotes,
backslashes and control characters are escaped.
-/

namespace ScopedAuth.Json

/-- The digit for a value below sixteen, in lower case. -/
def hexDigit (n : Nat) : Char :=
  if n < 10 then Char.ofNat ('0'.toNat + n) else Char.ofNat ('a'.toNat + (n - 10))

/-- A character inside a string. -/
def escape (c : Char) : List Char :=
  if c = '"' then ['\\', '"']
  else if c = '\\' then ['\\', '\\']
  else if c = '\x08' then ['\\', 'b']
  else if c = '\t' then ['\\', 't']
  else if c = '\n' then ['\\', 'n']
  else if c = '\x0C' then ['\\', 'f']
  else if c = '\r' then ['\\', 'r']
  else if c.toNat < 0x20 then
    ['\\', 'u', '0', '0', hexDigit (c.toNat / 16), hexDigit (c.toNat % 16)]
  else [c]

/-- A string between quotes. -/
def quoted (s : String) : List Char :=
  '"' :: s.toList.flatMap escape ++ ['"']

/-- The start of a line that stands so many levels in. -/
def newLine (depth : Nat) : List Char :=
  '\n' :: List.replicate (2 * depth) ' '

mutual

/-- A value whose first line stands so many levels in. -/
def print (depth : Nat) : Json → List Char
  | .null => "null".toList
  | .boolean value => (if value then "true" else "false").toList
  | .number text => text.toList
  | .string value => quoted value
  | .array [] => "[]".toList
  | .array (element :: rest) =>
    '[' :: newLine (depth + 1) ++ print (depth + 1) element ++ printElements (depth + 1) rest ++
      newLine depth ++ [']']
  | .object [] => ['\x7b', '\x7d']
  | .object ((key, value) :: rest) =>
    '\x7b' :: newLine (depth + 1) ++ quoted key ++ [':', ' '] ++ print (depth + 1) value ++
      printMembers (depth + 1) rest ++ newLine depth ++ ['\x7d']

/-- Further elements of an array. -/
def printElements (depth : Nat) : List Json → List Char
  | [] => []
  | element :: rest => ',' :: newLine depth ++ print depth element ++ printElements depth rest

/-- Further members of an object. -/
def printMembers (depth : Nat) : List (String × Json) → List Char
  | [] => []
  | (key, value) :: rest =>
    ',' :: newLine depth ++ quoted key ++ [':', ' '] ++ print depth value ++
      printMembers depth rest

end

/-- The text of a document. -/
def pretty (document : Json) : String :=
  String.ofList (document.print 0)

end ScopedAuth.Json
