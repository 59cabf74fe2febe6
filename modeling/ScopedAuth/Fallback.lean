import ScopedAuth.Credential
import ScopedAuth.Glob.Match
import ScopedAuth.Target

/-!
# Fallbacks

What answers for the targets that nothing is stored for: nobody, always the same credential, the
credential of the first pattern that the text of the target matches, or a function that is given
from outside.
-/

namespace ScopedAuth

/-- Patterns with their credentials, in the order in which they are tried. -/
structure PatternList where
  items : List (Glob.Pattern × Credential)

namespace PatternList

/-- No patterns. -/
def empty : PatternList :=
  ⟨[]⟩

/-- Adds a pattern behind the others. -/
def add (list : PatternList) (pattern : String) (credential : Credential) :
    Except Glob.PatternError PatternList := do
  return ⟨list.items ++ [(← Glob.Pattern.parse pattern, credential)]⟩

/-- The credential of the first pattern that matches. -/
def find? (list : PatternList) (target : Target) : Option Credential :=
  (list.items.find? (·.1.matches target.text)).map (·.2)

/-- How many patterns there are. -/
def size (list : PatternList) : Nat :=
  list.items.length

/-- Whether there are no patterns. -/
def isEmpty (list : PatternList) : Bool :=
  list.items.isEmpty

end PatternList

/-- What answers where nothing is stored. -/
inductive Fallback where
  | none
  | always (credential : Credential)
  | patterns (list : PatternList)
  | custom (answer : Target → Option Credential)

/-- The credential of a fallback for a target. -/
def Fallback.resolve : Fallback → Target → Option Credential
  | .none, _ => Option.none
  | .always credential, _ => some credential
  | .patterns list, target => list.find? target
  | .custom answer, target => answer target

end ScopedAuth
