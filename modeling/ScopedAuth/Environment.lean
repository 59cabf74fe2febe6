import ScopedAuth.Path

/-!
# Environments

The variables that a program is started with, and the places that they name.  Where the variables
give no home directory, that of the account of the user stands in for it.
-/

namespace ScopedAuth

/-- The variables that a program is started with. -/
structure Environment where
  bindings : List (String × String)

namespace Environment

/-- Whether a text can be the name of a variable. -/
def isName (name : String) : Bool :=
  name != "" && name.toList.all fun c => c ≠ '=' && c ≠ '\x00'

/-- The value of a variable, if it is set. -/
def get? (env : Environment) (name : String) : Option String :=
  if isName name then env.bindings.lookup name else none

/-- The home directory.  Where none is set, that of the account that the program runs for stands in
for it. -/
def home? (env : Environment) (account : Option String := none) : Option String :=
  ((env.get? "HOME").filter (· ≠ "")).or (account.filter (· ≠ ""))

/-- The home directory, or else the current directory. -/
def home (env : Environment) (account : Option String := none) : String :=
  (env.home? account).getD "."

/-- The directory for configuration files.  A relative path does not name one. -/
def configDirectory? (env : Environment) (account : Option String := none) : Option String :=
  ((env.get? "XDG_CONFIG_HOME").filter Path.isAbsolute).or
    ((env.home? account).map (Path.join · ".config"))

/-- Where the configuration is looked for unless another place is named. -/
def defaultConfigPath (env : Environment) (account : Option String := none) : String :=
  Path.join (Path.join ((env.configDirectory? account).getD ".") "realmkey") "config.toml"

end Environment

end ScopedAuth
