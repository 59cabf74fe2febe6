import ScopedAuth.Password
import ScopedAuth.Text.Quoted

/-!
# Identities and entries

An identity is a record of fields whose meaning the family of the authentication scheme fixes: the
user name first, and for some families more.  An entry is what is stored for one target.
-/

namespace ScopedAuth

/-- The fields that identify a user, in order. -/
structure Identity where
  fields : List String
  deriving DecidableEq

namespace Identity

/-- The field at a position. -/
def get? (identity : Identity) (index : Nat) : Option String :=
  identity.fields[index]?

/-- The user name, which every family keeps first. -/
def username? (identity : Identity) : Option String :=
  identity.get? 0

/-- How many fields there are. -/
def size (identity : Identity) : Nat :=
  identity.fields.length

/-- Whether there are no fields. -/
def isEmpty (identity : Identity) : Bool :=
  identity.fields.isEmpty

/-- How an identity is shown for inspection. -/
def inspect (identity : Identity) : String :=
  "IdentityRecord([" ++ ", ".intercalate (identity.fields.map Text.Quoted.text) ++ "])"

end Identity

/-- The identity and password stored for one target. -/
structure Entry where
  identity : Identity
  password : Password
  deriving DecidableEq

/-- The user name of an entry. -/
def Entry.username? (entry : Entry) : Option String :=
  entry.identity.username?

/-- How an entry is shown for inspection: with its identity, but without its password. -/
def Entry.inspect (entry : Entry) : String :=
  "CredentialEntry \x7b identity: " ++ entry.identity.inspect ++ ", secret: " ++
    entry.password.inspect ++ " \x7d"

end ScopedAuth
