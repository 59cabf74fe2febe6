import ScopedAuth.Path

/-!
# File trees

What a path leads to in a tree of directories and files.  Every component but the last has to lead
to a directory, and so has whatever stands in front of a final slash, a dot or two dots.
-/

namespace ScopedAuth

/-- What a path leads to. -/
inductive File where
  | directory
  | bytes (content : ByteArray)

/-- Files and directories with the components that lead to them from the root.  The directories on
the way to one of them are there without being listed. -/
structure FileTree where
  nodes : List (List String × File)

namespace FileTree

/-- What the components from the root lead to. -/
def node? (tree : FileTree) (location : List String) : Option File :=
  if location.isEmpty then some .directory
  else
    match tree.nodes.lookup location with
    | some file => some file
    | none =>
      if tree.nodes.any (location.isPrefixOf ·.1) then some .directory else none

/-- Takes one step from a location. -/
def step? (tree : FileTree) (location : List String) (component : String) :
    Option (List String) :=
  match tree.node? location with
  | some .directory =>
    if component = "" ∨ component = "." then some location
    else if component = ".." then some location.dropLast
    else some (location ++ [component])
  | _ => none

/-- The components of a path. -/
def components (path : String) : List String :=
  (path.toList.splitOn '/').map String.ofList

/-- What a path leads to, from a working directory given by an absolute path. -/
def look (tree : FileTree) (directory path : String) : Option File :=
  if path = "" then none
  else do
    tree.node? (← (components (Path.join directory path)).foldlM tree.step? [])

/-- Adds what an absolute path leads to; a final slash makes it an empty directory. -/
def add (tree : FileTree) (path : String) (content : ByteArray) : FileTree :=
  ⟨((components path).filter (· != ""),
    if path.toList.getLast? = some '/' then .directory else .bytes content) :: tree.nodes⟩

end FileTree

end ScopedAuth
