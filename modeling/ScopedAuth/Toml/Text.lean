import ScopedAuth.Text.Percent
import ScopedAuth.Toml.Reader

/-!
# Strings

Strings between quotes know escapes, strings between apostrophes do not.  Either kind may also stand
between three marks and then run over several lines.
-/

namespace ScopedAuth.Toml.Reader

open ScopedAuth.Text

/-- Takes a number of hexadecimal digits that name a character. -/
def codePoint (digits : Nat) : Reader Char := do
  let ds ← (List.replicate digits ()).mapM fun _ => one isHexDigit
  let n := ds.foldl (fun n d => 16 * n + (hexValue? d).getD 0) 0
  if n.isValidChar then return Char.ofNat n else failure

/-- Takes a backslash and what it escapes. -/
def escape : Reader Char := do
  char '\\'
  match ← one fun _ => true with
  | 'b' => return '\x08'
  | 't' => return '\t'
  | 'n' => return '\n'
  | 'f' => return '\x0C'
  | 'r' => return '\r'
  | '"' => return '"'
  | '\\' => return '\\'
  | 'u' => codePoint 4
  | 'U' => codePoint 8
  | _ => failure

/-- Takes a character that stands for itself between quotes. -/
def plain : Reader Char :=
  one fun c => isPrintable c && c ≠ '"' && c ≠ '\\'

/-- Takes a character that stands for itself between apostrophes. -/
def verbatim : Reader Char :=
  one fun c => isPrintable c && c ≠ '\''

/-- Takes a string between quotes. -/
def quoted : Reader String := do
  char '"'
  let text ← many (plain <|> escape)
  char '"'
  return String.ofList text

/-- Takes a string between apostrophes. -/
def literal : Reader String := do
  char '\''
  let text ← many verbatim
  char '\''
  return String.ofList text

/-- Takes a backslash at the end of a line, and everything up to the next visible character. -/
def continuation : Reader Unit := do
  char '\\'
  spaces
  newline
  let _ ← many (run1 isSpace *> pure () <|> newline)

/-- Takes one or two marks that do not end a string of several lines. -/
def loneMarks (mark : Char) : Reader (List Char) := do
  let marks ← run1 (· = mark)
  if marks.length ≤ 2 then return marks else failure

/-- Takes the three marks at the end of a string; up to two more in front belong to the string. -/
def closing (mark : Char) : Reader (List Char) := do
  let marks ← run1 (· = mark)
  if 3 ≤ marks.length ∧ marks.length ≤ 5 then return marks.drop 3 else failure

/-- Takes a string of several lines between three marks, without a line end directly behind the
first three.  `piece` takes what is neither a mark nor a line end. -/
def multiline (mark : Char) (piece : Reader (List Char)) : Reader String := do
  word (String.ofList [mark, mark, mark])
  let _ ← optional newline
  let pieces ← many (piece <|> newline *> pure ['\n'] <|> loneMarks mark)
  return String.ofList (pieces.flatten ++ (← closing mark))

/-- Takes a string of any kind. -/
def string : Reader String :=
  multiline '"' (List.singleton <$> plain <|> continuation *> pure [] <|> List.singleton <$> escape)
    <|> quoted <|> multiline '\'' (List.singleton <$> verbatim) <|> literal

end ScopedAuth.Toml.Reader
