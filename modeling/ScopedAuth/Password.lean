import ScopedAuth.Json.Basic

/-!
# Passwords and secrets

A password is a text that may still be typed at and wiped; a secret is the copy of one that is
handed on.  Neither is ever shown: what stands in for them says nothing about the text.
-/

namespace ScopedAuth

/-- A text that is handed on and not changed any more. -/
structure Secret where
  text : String
  deriving DecidableEq

/-- How a secret is shown for inspection. -/
def Secret.inspect (_ : Secret) : String :=
  "Secret(SecretBox<str>([REDACTED]))"

/-- A text that is kept for as long as it is needed. -/
structure Password where
  text : String
  deriving DecidableEq

namespace Password

/-- The password that a buffer of characters holds. -/
def ofChars (chars : List Char) : Password :=
  ⟨String.ofList chars⟩

/-- Types one more character. -/
def push (password : Password) (c : Char) : Password :=
  ⟨password.text.push c⟩

/-- Forgets the text. -/
def wipe (_ : Password) : Password :=
  ⟨""⟩

/-- How many characters the password has. -/
def size (password : Password) : Nat :=
  password.text.length

/-- Whether the password has no characters. -/
def isEmpty (password : Password) : Bool :=
  password.text.isEmpty

/-- A copy of the password to hand on. -/
def toSecret (password : Password) : Secret :=
  ⟨password.text⟩

/-- The password that a secret was copied from. -/
def ofSecret (secret : Secret) : Password :=
  ⟨secret.text⟩

/-- The password that a JSON value holds; only a string holds one. -/
def ofJson? : Json → Option Password
  | .string value => some ⟨value⟩
  | _ => none

/-- How a password is shown for inspection. -/
def inspect (_ : Password) : String :=
  "Password(SecretBox<alloc::string::String>([REDACTED]))"

end Password

end ScopedAuth
