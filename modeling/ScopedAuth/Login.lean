import ScopedAuth.Credential
import ScopedAuth.Identity

/-!
# Logins

A login is what a user gives to be known by: a name, a password and, for some families, a
workstation and a domain.  It becomes an entry of a store or, directly, a credential.
-/

namespace ScopedAuth

/-- A user name, a password, and what else identifies the user. -/
structure Login where
  username : String
  password : Password
  workstation : Option String
  domain : Option String
  deriving DecidableEq

namespace Login

/-- The fields of the identity of a login; what is unset is stored as empty. -/
def fields (family : Family) (login : Login) : List String :=
  match family with
  | .basic => [login.username]
  | .ntlm => [login.username, login.workstation.getD "", login.domain.getD ""]

/-- The entry that a login is stored as. -/
def entry (family : Family) (login : Login) : Entry :=
  ⟨⟨login.fields family⟩, login.password⟩

/-- The credential of a login that is not stored. -/
def credential (family : Family) (login : Login) : Credential :=
  Credential.make family login.username login.password.toSecret login.workstation login.domain

/-- An entry made from a login has as many fields as the family needs. -/
theorem size_entry (family : Family) (login : Login) :
    (login.entry family).identity.size = family.arity := by
  cases family <;> rfl

end Login

end ScopedAuth
