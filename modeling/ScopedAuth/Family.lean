/-!
# Families of authentication schemes

Schemes that are answered with the same kind of credential form a family.  The family fixes which
fields an identity has.
-/

namespace ScopedAuth

/-- A family of schemes. -/
inductive Family where
  /-- Basic and Digest. -/
  | basic
  /-- NTLM. -/
  | ntlm
  deriving DecidableEq

namespace Family

/-- The name of a family. -/
def name : Family → String
  | .basic => "basic"
  | .ntlm => "ntlm"

/-- The names of the fields of an identity, in order. -/
def fieldNames : Family → List String
  | .basic => ["username"]
  | .ntlm => ["username", "workstation", "domain"]

/-- How many fields an identity needs. -/
def arity (family : Family) : Nat :=
  family.fieldNames.length

/-- The fields of an identity with their positions. -/
def layout (family : Family) : String :=
  ", ".intercalate
    (family.fieldNames.zipIdx.map fun (field, index) => toString index ++ " = " ++ field)

end Family

end ScopedAuth
