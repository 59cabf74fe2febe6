import ScopedAuth.Target

/-!
# Scopes

A scope says to which hosts and ports a credential is offered; a part that is left open matches
anything.
-/

namespace ScopedAuth

/-- A host, in lower case, and a port, either of which may be left open. -/
structure Scope where
  host : Option String
  port : Option Url.Port
  deriving DecidableEq

namespace Scope

/-- The text with its ASCII letters in lower case. -/
def lower (s : String) : String :=
  String.ofList (s.toList.map Char.toLower)

/-- The scope of a host and perhaps a port. -/
def make (host : String) (port : Option Url.Port) : Scope :=
  ⟨some (lower host), port⟩

/-- The scope that matches every host and port. -/
def any : Scope :=
  ⟨none, none⟩

/-- The scope of a target; one without a host has none. -/
def ofTarget? (target : Target) : Option Scope :=
  target.host?.map fun host => make host target.port?

/-- What a part of a scope adds if it covers the same part of another: nothing if it is open, its
weight if the two agree. -/
def partScore {α : Type} [DecidableEq α] (weight : Nat) : Option α → Option α → Option Nat
  | none, _ => some 0
  | some a, some b => if a = b then some weight else none
  | some _, none => none

/-- How specifically a scope covers another, if it does; the host counts for more than the port. -/
def score? (scope other : Scope) : Option Nat := do
  return (← partScore 2 scope.host other.host) + (← partScore 1 scope.port other.port)

end Scope

end ScopedAuth
