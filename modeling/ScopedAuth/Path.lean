/-!
# Paths

Paths are texts with slashes between their components.  A path that begins with a slash is absolute,
any other starts where it is joined to.
-/

namespace ScopedAuth.Path

/-- Whether a path starts at the root. -/
def isAbsolute (path : String) : Bool :=
  path.toList.head? = some '/'

/-- The path that leads on from another; an absolute path stands for itself. -/
def join (base path : String) : String :=
  if isAbsolute path then path
  else if base = "" ∨ base.toList.getLast? = some '/' then base ++ path
  else base ++ "/" ++ path

/-- Puts the home directory in the place of a leading tilde and slash. -/
def expandHome (home path : String) : String :=
  match path.toList with
  | '~' :: '/' :: rest => join home (String.ofList rest)
  | _ => path

end ScopedAuth.Path
