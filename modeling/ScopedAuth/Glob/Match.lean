import ScopedAuth.Glob.Pattern

/-!
# Matching

A pattern is matched from left to right.  Where a wildcard may take more or less of the text, the
shortest way is tried first; once the text runs out before the pattern does, no longer way can
succeed either, and the whole attempt is given up.
-/

namespace ScopedAuth.Glob

/-- How an attempt to match ends. -/
inductive Verdict where
  | found
  /-- The text differs, or goes on behind the pattern. -/
  | differs
  /-- The text ends before the pattern does. -/
  | exhausted
  deriving DecidableEq

/-- Goes on with `next` after each run of the text, the empty one first, until an attempt does not
merely differ.  After the whole text there is nothing left for `next`. -/
def tryRuns (next : List Char → Verdict) : List Char → Verdict
  | [] => next []
  | c :: rest =>
    match next (c :: rest) with
    | .differs => tryRuns next rest
    | verdict => verdict

/-- Goes on with `next` at each component of the text, and at last behind all of it; `atStart` says
whether a component begins here. -/
def tryComponents (next : List Char → Verdict) (atStart : Bool) : List Char → Verdict
  | [] => next []
  | c :: rest =>
    match if atStart then next (c :: rest) else .differs with
    | .differs => tryComponents next (c = '/') rest
    | verdict => verdict

/-- Whether a token that takes one character takes this one. -/
def Token.takes : Token → Char → Bool
  | .literal d, c => c = d
  | .anyChar, _ => true
  | .oneOf items, c => items.any (·.lists c)
  | .noneOf items, c => !items.any (·.lists c)
  | _, _ => false

/-- Matches tokens against a whole text. -/
def matchTokens : List Token → List Char → Verdict
  | [], [] => .found
  | [], _ :: _ => .differs
  | .anyRun :: tokens, text => tryRuns (matchTokens tokens) text
  | .anyComponents :: tokens, text => tryComponents (matchTokens tokens) true text
  | _ :: _, [] => .exhausted
  | token :: tokens, c :: rest => if token.takes c then matchTokens tokens rest else .differs

/-- Whether a text matches a pattern. -/
def Pattern.matches (pattern : Pattern) (text : String) : Bool :=
  matchTokens pattern.tokens text.toList = .found

end ScopedAuth.Glob
