import ScopedAuth.Idna.MappingTable
import ScopedAuth.Unicode.Bidi
import ScopedAuth.Unicode.CombiningClass
import ScopedAuth.Unicode.Joining
import ScopedAuth.Unicode.Mark

/-!
# Labels of a host name

What a label may look like: it does not begin with a combining mark, its joiners stand where they
have an effect, and, if any label of the name runs from right to left, it keeps to the rule that
lets labels of both directions stand side by side.
-/

namespace ScopedAuth.Idna

open ScopedAuth.Unicode

/-! ### Joiners -/

/-- The zero-width non-joiner. -/
def nonJoiner : Char := Char.ofNat 0x200C

/-- The zero-width joiner. -/
def joiner : Char := Char.ofNat 0x200D

/-- The joining type of the first character that is not passed over. -/
def nextJoining (cs : List Char) : JoiningType :=
  match cs.dropWhile (joiningType · = .transparent) with
  | [] => .none
  | c :: _ => joiningType c

/-- Whether a non-joiner keeps apart two letters that would join: `before` is what precedes it, the
nearest first, and `behind` what follows. -/
def separates (before behind : List Char) : Bool :=
  (nextJoining before = .left || nextJoining before = .dual) &&
    (nextJoining behind = .right || nextJoining behind = .dual)

/-- Whether a virama comes directly before. -/
def followsVirama : List Char → Bool
  | [] => false
  | c :: _ => combiningClass c = viramaClass

/-- Whether each joiner of a label has an effect; `before` is what has been read, the latest
first. -/
def joinersAllowed (before : List Char) : List Char → Bool
  | [] => true
  | c :: rest =>
    (if c = nonJoiner then followsVirama before || separates before rest
      else if c = joiner then followsVirama before
      else true) &&
    joinersAllowed (c :: before) rest

/-! ### Direction -/

/-- Whether a character makes the name that holds it a bidirectional one. -/
def runsLeft (c : Char) : Bool :=
  match bidiClass c with
  | .r | .al | .an => true
  | _ => false

/-- Whether a class may occur in a label that runs from right to left. -/
def BidiRule.leftward : BidiClass → Bool
  | .l | .other => false
  | _ => true

/-- Whether a class may occur in a label that runs from left to right. -/
def BidiRule.rightward : BidiClass → Bool
  | .r | .al | .an | .other => false
  | _ => true

/-- The class of the last character that is not a nonspacing mark. -/
def lastSpacing (classes : List BidiClass) : Option BidiClass :=
  (classes.reverse.dropWhile (· = .nsm)).head?

/-- Whether the classes of a label keep to the rule of its direction: it begins with a letter, holds
only classes of that direction, ends with a letter or number, and does not mix two kinds of
numbers. -/
def bidiAllowed (classes : List BidiClass) : Bool :=
  match classes with
  | [] => true
  | .l :: _ =>
    classes.all BidiRule.rightward &&
      match lastSpacing classes with
      | some .l | some .en => true
      | _ => false
  | .r :: _ | .al :: _ =>
    classes.all BidiRule.leftward &&
      (match lastSpacing classes with
      | some .r | some .al | some .en | some .an => true
      | _ => false) &&
      !(classes.contains .en && classes.contains .an)
  | _ => false

/-! ### Labels -/

/-- Whether a label with characters outside ASCII is well-formed on its own. -/
def labelAllowed : List Char → Bool
  | [] => true
  | c :: rest => !isMark c && joinersAllowed [] (c :: rest)

end ScopedAuth.Idna
