import ScopedAuth.Text.Blank
import ScopedAuth.Text.Percent
import ScopedAuth.Text.Quoted
import ScopedAuth.Url.Parser

/-!
# Targets

A target names the endpoint or realm that a credential applies to.  It is a URI reference: an
absolute URL, or a relative reference without URL, host and port.  Its text is kept as it is given,
and two targets are the same if their texts are.
-/

namespace ScopedAuth

/-- What is wrong with the text of a target. -/
inductive Target.Fault where
  | illegalCharacter (c : Char)
  | malformedEscape
  | url (error : Url.Error)
  deriving DecidableEq

/-- The wording of a fault. -/
def Target.Fault.message : Target.Fault → String
  | .illegalCharacter c => "illegal character " ++ Text.Quoted.char c
  | .malformedEscape => "malformed percent escape"
  | .url error => error.message

/-- Why a text is not a target. -/
inductive Target.Error where
  | missing
  | invalid (text : String) (fault : Target.Fault)
  deriving DecidableEq

/-- The wording of an error. -/
def Target.Error.message : Target.Error → String
  | .missing => "Target URI cannot be empty"
  | .invalid text fault => "Invalid target URI " ++ text ++ ": " ++ fault.message

namespace Target

/-- The printable characters that a URI reference may not hold. -/
def excluded : List Char :=
  ['"', '<', '>', '\\', '^', '\x60', '\x7b', '|', '\x7d']

/-- Whether a character may not occur in a target. -/
def isIllegal (c : Char) : Bool :=
  Text.isBlank c || Text.isControl c || excluded.contains c

/-- The URL that the text of a target spells, if it is absolute.  Blank text is missing; otherwise
the first illegal character is reported, then a malformed escape, then the fault of the URL. -/
def readUrl (text : String) : Except Error (Option Url) :=
  let chars := text.toList
  if chars.all Text.isBlank then .error .missing
  else
    match chars.find? isIllegal with
    | some c => .error (.invalid text (.illegalCharacter c))
    | none =>
      if !Text.Percent.wellFormed chars then .error (.invalid text .malformedEscape)
      else (Url.parse chars).mapError fun e => .invalid text (.url e)

end Target

/-- A URI reference and, if it is absolute, the URL that it spells. -/
structure Target where
  text : String
  url : Option Url
  reads : Target.readUrl text = .ok url

namespace Target

/-- Reads a target. -/
def parse (text : String) : Except Error Target :=
  match h : readUrl text with
  | .error e => .error e
  | .ok url => .ok ⟨text, url, h⟩

/-- A target keeps the text that it is read from. -/
theorem text_of_parse {text : String} {target : Target} (h : parse text = .ok target) :
    target.text = text := by
  unfold parse at h
  split at h
  · exact nomatch h
  · exact congrArg Target.text (Except.ok.inj h).symm

/-- A target is fixed by its text. -/
theorem eq_of_text_eq {one other : Target} (h : one.text = other.text) : one = other := by
  cases one with
  | mk text url reads =>
    cases other with
    | mk text' url' reads' =>
      have htext : text = text' := h
      subst htext
      have hurl : url = url' := Except.ok.inj (reads.symm.trans reads')
      subst hurl
      rfl

/-- Whether the target is an absolute URL. -/
def isAbsolute (target : Target) : Bool :=
  target.url.isSome

/-- The host of the URL, as text. -/
def host? (target : Target) : Option String :=
  (target.url.bind Url.host?).map Url.Host.text

/-- The port of the URL, or of its scheme. -/
def port? (target : Target) : Option Url.Port :=
  target.url.bind Url.port?

/-- How a target is shown for inspection. -/
def inspect (text : String) : String :=
  "Target(" ++ Text.Quoted.text text ++ ")"

end Target

end ScopedAuth
