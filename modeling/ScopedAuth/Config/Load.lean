import ScopedAuth.Config.Basic
import ScopedAuth.FileTree

/-!
# Loading a configuration

A configuration is read from the file that a path leads to.  How a file is reached is left open, so
that loading can be run on a tree of files as well as on the files of a machine.
-/

namespace ScopedAuth.Config

/-- The configuration in what a path leads to. -/
def ofFile (env : Environment) (path : String) : Option File → Except ConfigError Config
  | none => .error (.notFound path)
  | some .directory => .error .unreadable
  | some (.bytes content) =>
    match String.fromUTF8? content with
    | some text => parse env text
    | none => .error .unreadable

/-- Loads the configuration from a path, in which a leading tilde stands for the home directory. -/
def load {m : Type → Type} [Monad m] (look : String → m (Option File)) (env : Environment)
    (path : String) (account : Option String := none) : m (Except ConfigError Config) := do
  let path := Path.expandHome (env.home account) path
  return ofFile env path (← look path)

end ScopedAuth.Config
