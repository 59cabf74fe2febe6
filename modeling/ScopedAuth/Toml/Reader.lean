/-!
# Readers

A reader takes a beginning of a text and gives a value, or refuses.  These are the readers for
characters and runs of them, and for what may stand between the parts of a document: blanks, line
ends and comments.
-/

namespace ScopedAuth.Toml

/-- Takes a beginning of the text and gives a value, or refuses. -/
abbrev Reader := StateT (List Char) Option

namespace Reader

/-- Takes one character of a class. -/
def one (p : Char → Bool) : Reader Char
  | c :: rest => if p c then some (c, rest) else none
  | [] => none

/-- Takes a given character. -/
def char (c : Char) : Reader Unit := do
  let _ ← one (· = c)

/-- Takes given characters, one after the other. -/
def word (s : String) : Reader Unit :=
  s.toList.forM char

/-- Takes the longest run of characters of a class, which may be empty. -/
def run (p : Char → Bool) : Reader (List Char) :=
  fun text => some (text.takeWhile p, text.dropWhile p)

/-- Takes the longest run of characters of a class, which may not be empty. -/
def run1 (p : Char → Bool) : Reader (List Char) := do
  return (← one p) :: (← run p)

/-- Takes nothing, and only where nothing is left. -/
def done : Reader Unit
  | [] => some ((), [])
  | _ :: _ => none

/-- Reads again and again until the reader refuses, at most once for each character of a bound. -/
def manyWithin {α : Type} (p : Reader α) : List Char → Reader (List α)
  | [] => pure []
  | _ :: bound => (do return (← p) :: (← manyWithin p bound)) <|> pure []

/-- Reads again and again until the reader refuses.  The reader has to take a character each time,
so that the text itself is bound enough. -/
def many {α : Type} (p : Reader α) : Reader (List α) := do
  manyWithin p (← get)

/-- Reads one or more items with a separator between each two. -/
def separated {α : Type} (separator : Reader Unit) (p : Reader α) : Reader (List α) := do
  return (← p) :: (← many (separator *> p))

/-! ### Between the parts of a document -/

/-- Whether a character is a space or a tab. -/
def isSpace (c : Char) : Bool :=
  c = ' ' || c = '\t'

/-- Whether a character may stand in a line: no control but the tab. -/
def isPrintable (c : Char) : Bool :=
  c = '\t' || (0x20 ≤ c.toNat && c.toNat ≠ 0x7F)

/-- Takes spaces and tabs. -/
def spaces : Reader Unit := do
  let _ ← run isSpace

/-- Takes a line feed, which a carriage return may precede. -/
def newline : Reader Unit :=
  char '\n' <|> word "\r\n"

/-- Takes a comment up to the end of its line. -/
def comment : Reader Unit := do
  char '#'
  let _ ← run isPrintable

/-- Takes the end of a line or of the text. -/
def lineEnd : Reader Unit :=
  newline <|> done

/-- Takes what may follow the last part of a line. -/
def restOfLine : Reader Unit := do
  spaces
  let _ ← optional comment
  lineEnd

/-- Takes spaces, line ends and comments, as they may stand between the elements of an array. -/
def gap : Reader Unit := do
  let _ ← many (run1 isSpace *> pure () <|> optional comment *> newline)

end Reader

end ScopedAuth.Toml
