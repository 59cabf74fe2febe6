import ScopedAuth.Cli.Run

/-!
# The program

Reads the command line, the environment and the files of the machine, and prints.
-/

open ScopedAuth

/-- The variables in a block of bytes, each ended by a zero byte.  What is not UTF-8 is left out. -/
def variablesOf (block : ByteArray) : List (String × String) :=
  let step (state : List (String × String) × List UInt8) (byte : UInt8) :=
    if byte = 0 then
      match String.fromUTF8? ⟨state.2.reverse.toArray⟩ with
      | some text =>
        let name := text.toList.takeWhile (· != '=')
        ((String.ofList name, String.ofList (text.toList.drop (name.length + 1))) :: state.1, [])
      | none => (state.1, [])
    else (state.1, byte :: state.2)
  (block.toList.foldl step ([], [])).1.reverse

/-- The environment of the process. -/
def readEnvironment : IO Environment := do
  try
    return ⟨variablesOf (← IO.FS.readBinFile "/proc/self/environ")⟩
  catch _ =>
    return ⟨[]⟩

/-- The home directory of a user in a list of accounts: one on each line, with colons between what
is said of it. -/
def homeOf? (accounts : String) (user : List Char) : Option String :=
  (accounts.toList.splitOn '\n').findSome? fun line =>
    match line.splitOn ':' with
    | _ :: _ :: number :: _ :: _ :: home :: _ =>
      if number = user then some (String.ofList home) else none
    | _ => none

/-- The user in the status of a process. -/
def userOf? (status : String) : Option (List Char) :=
  (status.toList.splitOn '\n').findSome? fun line =>
    match line.splitOn '\t' with
    | name :: user :: _ => if name = "Uid:".toList then some user else none
    | _ => none

/-- The home directory that the account of the process names. -/
def readAccount : IO (Option String) := do
  try
    let user := userOf? (← IO.FS.readFile "/proc/self/status")
    let accounts ← IO.FS.readFile "/etc/passwd"
    return user.bind (homeOf? accounts)
  catch _ =>
    return none

/-- What a path leads to on the machine; what is there and cannot be read counts as a directory. -/
def lookUp (path : String) : IO (Option File) := do
  try
    let _ ← IO.FS.realPath path
  catch _ =>
    return none
  try
    return some (.bytes (← IO.FS.readBinFile path))
  catch _ =>
    return some .directory

/-- Runs the program and ends with its exit code. -/
def main (arguments : List String) : IO UInt32 := do
  let outcome ← Cli.run lookUp (← readEnvironment) arguments (← readAccount)
  IO.print outcome.output
  unless outcome.complaint.isEmpty do
    IO.eprintln ("error: " ++ outcome.complaint)
  return outcome.code
