import ScopedAuth.Url.Host
import ScopedAuth.Url.Scheme

/-!
# Paths

A path is cut into segments, and those that stand for "here" and "one up" are carried out.  A drive
letter is never climbed over, and at the start of the path of a file it also takes the place of the
host.
-/

namespace ScopedAuth.Url.Path

open ScopedAuth.Text

/-- Whether a segment stands for the segment it is in. -/
def isSingleDot (segment : List Char) : Bool :=
  let s := String.ofList (segment.map Char.toLower)
  s = "." || s = "%2e"

/-- Whether a segment stands for the one above. -/
def isDoubleDot (segment : List Char) : Bool :=
  let s := String.ofList (segment.map Char.toLower)
  s = ".." || s = ".%2e" || s = "%2e." || s = "%2e%2e"

/-- Whether a segment is a drive letter and a colon. -/
def isDrive : List Char → Bool
  | [c, ':'] => c.isAlpha
  | _ => false

/-- The segments that are finished, the latest first, and whether a drive was met at the start. -/
structure State where
  done : List (List Char)
  hasDrive : Bool

/-- Leaves the latest segment, unless it is a drive. -/
def climb : List (List Char) → List (List Char)
  | [] => []
  | segment :: rest => if isDrive segment then segment :: rest else rest

/-- Whether a segment counts as a drive here. -/
def State.startsDrive (state : State) (layout : Layout) (segment : List Char) : Bool :=
  layout = .file && state.done.isEmpty && isDrive segment

/-- Takes in the segments of a path.  The last one is not followed by a slash, so that a dot segment
there leaves an empty segment behind. -/
def run (layout : Layout) (state : State) : List (List Char) → State
  | [] => state
  | [last] =>
    if isDoubleDot last then { state with done := [] :: climb state.done }
    else if isSingleDot last then { state with done := [] :: state.done }
    else ⟨last :: state.done, state.hasDrive || state.startsDrive layout last⟩
  | segment :: rest =>
    if isDoubleDot segment then run layout { state with done := climb state.done } rest
    else if isSingleDot segment then run layout state rest
    else run layout ⟨segment :: state.done, state.hasDrive || state.startsDrive layout segment⟩ rest

/-- The segments of a path as text, each behind a slash; a file's path does not begin with empty
segments that others follow. -/
def textOf (layout : Layout) (segments : List (List Char)) : List Char :=
  let text := List.intercalate ['/'] segments
  '/' :: if layout = .file then text.dropWhile (· = '/') else text

/-- Whether a character stands for itself in a path. -/
def keptInPath (c : Char) : Bool :=
  Host.isPrintableAscii c && !" \"#<>?^`\x7b\x7d".toList.contains c

/-- The path that a text spells, escaped, and whether it begins with a drive. -/
def parse (layout : Layout) (text : List Char) : String × Bool :=
  let relative := match text with
    | '/' :: rest => rest
    | _ => text
  let state := run layout ⟨[], false⟩ (relative.splitOn '/')
  (String.ofList (Percent.encode keptInPath (textOf layout state.done.reverse)),
    state.hasDrive)

end ScopedAuth.Url.Path
