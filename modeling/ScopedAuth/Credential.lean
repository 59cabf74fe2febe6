import ScopedAuth.Family
import ScopedAuth.Password
import ScopedAuth.Text.Base64
import ScopedAuth.Text.Quoted
import ScopedAuth.Unicode.Uppercase

/-!
# Credentials

What an authentication engine answers a challenge with.  A workstation and a domain are held in
upper case; either may be unset, which is not the same as empty.
-/

namespace ScopedAuth

/-- A user name and password, for Basic and Digest. -/
structure BasicCredential where
  username : String
  password : Secret
  deriving DecidableEq

namespace BasicCredential

/-- The value of the header that answers a Basic challenge before it is made. -/
def authorization (credential : BasicCredential) : Secret :=
  ⟨"Basic " ++ Text.Base64.encodeText (credential.username ++ ":" ++ credential.password.text)⟩

/-- How a credential is shown for inspection. -/
def inspect (credential : BasicCredential) : String :=
  "UsernamePasswordCredential \x7b username: " ++ Text.Quoted.text credential.username ++
    ", password: " ++ credential.password.inspect ++ " \x7d"

end BasicCredential

/-- A user in a domain at a workstation, for NTLM. -/
structure NtlmCredential where
  username : String
  password : Secret
  workstation : Option String
  domain : Option String
  deriving DecidableEq

namespace NtlmCredential

/-- The credential of a user, with workstation and domain brought to upper case. -/
def make (username : String) (password : Secret) (workstation domain : Option String) :
    NtlmCredential :=
  ⟨username, password, workstation.map Unicode.upper, domain.map Unicode.upper⟩

/-- The user name qualified by the domain, if there is one. -/
def principal (credential : NtlmCredential) : String :=
  match credential.domain with
  | some domain =>
    if domain = "" then credential.username else domain ++ "\\" ++ credential.username
  | none => credential.username

/-- How a field that may be unset is shown for inspection. -/
def inspectField : Option String → String
  | none => "None"
  | some value => "Some(" ++ Text.Quoted.text value ++ ")"

/-- How a credential is shown for inspection. -/
def inspect (credential : NtlmCredential) : String :=
  "NtCredential \x7b username: " ++ Text.Quoted.text credential.username ++
    ", password: " ++ credential.password.inspect ++
    ", workstation: " ++ inspectField credential.workstation ++
    ", domain: " ++ inspectField credential.domain ++ " \x7d"

end NtlmCredential

/-- A credential ready to answer a challenge. -/
inductive Credential where
  | basic (credential : BasicCredential)
  | ntlm (credential : NtlmCredential)
  deriving DecidableEq

namespace Credential

/-- The family that a credential belongs to. -/
def family : Credential → Family
  | .basic _ => .basic
  | .ntlm _ => .ntlm

/-- The user name. -/
def username : Credential → String
  | .basic credential => credential.username
  | .ntlm credential => credential.username

/-- The password. -/
def password : Credential → Secret
  | .basic credential => credential.password
  | .ntlm credential => credential.password

/-- The header that answers a Basic challenge. -/
def authorization? : Credential → Option Secret
  | .basic credential => some credential.authorization
  | .ntlm _ => none

/-- The principal of an NTLM credential. -/
def principal? : Credential → Option String
  | .basic _ => none
  | .ntlm credential => some credential.principal

/-- The workstation, if one is set. -/
def workstation? : Credential → Option String
  | .basic _ => none
  | .ntlm credential => credential.workstation

/-- The domain, if one is set. -/
def domain? : Credential → Option String
  | .basic _ => none
  | .ntlm credential => credential.domain

/-- How a credential is shown for inspection. -/
def inspect : Credential → String
  | .basic credential => "UsernamePassword(" ++ credential.inspect ++ ")"
  | .ntlm credential => "Nt(" ++ credential.inspect ++ ")"

/-- The credential of a family for a user; Basic has no use for a workstation or a domain. -/
def make (family : Family) (username : String) (password : Secret)
    (workstation domain : Option String) : Credential :=
  match family with
  | .basic => .basic ⟨username, password⟩
  | .ntlm => .ntlm (NtlmCredential.make username password workstation domain)

end Credential

end ScopedAuth
