/-!
# Command lines

A command line holds options and a command, and behind the command its own options and words.  An
option has a short and a long form; several short ones may share a hyphen.  The value of an option
is attached to it or is the next argument.  Behind two hyphens every argument is a word.

Arguments are read from left to right, and the first one that asks for help or is wrong ends the
reading.
-/

namespace ScopedAuth.Cli

/-- The options. -/
inductive Switch where
  | config
  | verbose
  | format
  | help
  | version
  deriving DecidableEq

namespace Switch

/-- The character behind one hyphen. -/
def short : Switch → Char
  | .config => 'c'
  | .verbose => 'v'
  | .format => 'f'
  | .help => 'h'
  | .version => 'V'

/-- The name behind two hyphens. -/
def long : Switch → String
  | .config => "config"
  | .verbose => "verbose"
  | .format => "format"
  | .help => "help"
  | .version => "version"

/-- Whether an option has a value. -/
def takesValue : Switch → Bool
  | .config | .format => true
  | .verbose | .help | .version => false

end Switch

/-- What is wrong with a command line. -/
inductive UsageError where
  | missingCommand
  | unknownCommand (name : String)
  | unknownOption (argument : String)
  | missingValue (option : Switch)
  | needlessValue (option : Switch)
  | repeated (option : Switch)
  | emptyPath
  | missingTarget
  | unexpectedWord (word : String)
  deriving DecidableEq

/-- The wording of an error. -/
def UsageError.message : UsageError → String
  | .missingCommand => "a command is required"
  | .unknownCommand name => "unrecognized command '" ++ name ++ "'"
  | .unknownOption argument => "unexpected argument '" ++ argument ++ "'"
  | .missingValue option => "a value is required for '--" ++ option.long ++ "'"
  | .needlessValue option => "no value is expected for '--" ++ option.long ++ "'"
  | .repeated option => "'--" ++ option.long ++ "' cannot be used multiple times"
  | .emptyPath => "the path of '--config' is empty"
  | .missingTarget => "a target is required"
  | .unexpectedWord word => "unexpected argument '" ++ word ++ "'"

/-- Why the reading of a command line ends before its end. -/
inductive Stop where
  /-- Help is asked for on a command, or on the program. -/
  | help (command : Option String)
  | version
  | wrong (error : UsageError)
  deriving DecidableEq

/-- What has been read so far on one side of the command. -/
structure Settings where
  config : Option String
  verbosity : Nat
  format : Option String
  words : List String
  deriving DecidableEq

namespace Settings

/-- Nothing has been read. -/
def empty : Settings :=
  ⟨none, 0, none, []⟩

/-- Takes in an option without a value. -/
def flag (settings : Settings) : Switch → Except Stop Settings
  | .verbose => .ok { settings with verbosity := settings.verbosity + 1 }
  | .help => .error (.help none)
  | .version => .error .version
  | option => .error (.wrong (.missingValue option))

/-- Takes in an option with its value; it may be there once. -/
def value (settings : Settings) (option : Switch) (value : String) : Except Stop Settings :=
  match option with
  | .config =>
    if settings.config.isSome then .error (.wrong (.repeated option))
    else if value = "" then .error (.wrong .emptyPath)
    else .ok { settings with config := some value }
  | .format =>
    if settings.format.isSome then .error (.wrong (.repeated option))
    else .ok { settings with format := some value }
  | option => .error (.wrong (.needlessValue option))

end Settings

/-- What may stand on one side of the command: the options, and how many words; `none` means that
the first word ends this side. -/
structure Place where
  options : List Switch
  words : Option Nat

/-- Reads the short options behind a hyphen.  The last of them may still be without its value. -/
def readShort (place : Place) (argument : String) (settings : Settings) :
    List Char → Except Stop (Settings × Option Switch)
  | [] => .ok (settings, none)
  | c :: rest =>
    match place.options.find? (·.short = c) with
    | none => .error (.wrong (.unknownOption argument))
    | some option =>
      if option.takesValue then
        match rest with
        | [] => .ok (settings, some option)
        | '=' :: value => (settings.value option (String.ofList value)).map (·, none)
        | value => (settings.value option (String.ofList value)).map (·, none)
      else do readShort place argument (← settings.flag option) rest

/-- Reads a long option, which may still be without its value. -/
def readLong (place : Place) (argument : String) (settings : Settings) (text : List Char) :
    Except Stop (Settings × Option Switch) :=
  let name := text.takeWhile (· != '=')
  match place.options.find? (·.long.toList = name), text.dropWhile (· != '=') with
  | none, _ => .error (.wrong (.unknownOption argument))
  | some option, [] =>
    if option.takesValue then .ok (settings, some option)
    else (settings.flag option).map (·, none)
  | some option, _ :: value => (settings.value option (String.ofList value)).map (·, none)

/-- Takes in a word, if the place has room for it. -/
def readWord (limit : Nat) (settings : Settings) (word : String) : Except Stop Settings :=
  if settings.words.length < limit then .ok { settings with words := settings.words ++ [word] }
  else .error (.wrong (.unexpectedWord word))

/-- Reads one side of the command.  `pending` is the option in front that is still without its
value.  Gives what is left where the first word ends this side. -/
def readSide (place : Place) (settings : Settings) (pending : Option Switch) :
    List String → Except Stop (Settings × List String)
  | [] =>
    match pending with
    | some option => .error (.wrong (.missingValue option))
    | none => .ok (settings, [])
  | argument :: rest =>
    match pending, argument.toList with
    | some option, '-' :: _ :: _ => .error (.wrong (.missingValue option))
    | some option, _ => do readSide place (← settings.value option argument) none rest
    | none, ['-', '-'] => do
      return (← rest.foldlM (readWord (place.words.getD 0)) settings, [])
    | none, '-' :: '-' :: text => do
      let (settings, pending) ← readLong place argument settings text
      readSide place settings pending rest
    | none, '-' :: c :: text => do
      let (settings, pending) ← readShort place argument settings (c :: text)
      readSide place settings pending rest
    | none, _ =>
      match place.words with
      | none => .ok (settings, argument :: rest)
      | some limit => do readSide place (← readWord limit settings argument) none rest

/-- What the program is asked to do. -/
inductive Command where
  /-- Tell whether the configuration can be carried out. -/
  | check
  /-- List the targets that something is stored for. -/
  | list (format : String)
  /-- Tell which credential a target would be given. -/
  | resolve (target : String)
  deriving DecidableEq

/-- A command, and what holds for every command. -/
structure Invocation where
  config : Option String
  verbosity : Nat
  command : Command
  deriving DecidableEq

/-- The side in front of the command. -/
def front : Place :=
  ⟨[.config, .verbose, .help, .version], none⟩

/-- The names of the commands. -/
def commandNames : List String :=
  ["check", "list", "resolve", "help"]

/-- What stops the reading behind the name of a command: help is then asked for on that command. -/
def Stop.behind (command : String) : Stop → Stop
  | .help _ => .help (some command)
  | stop => stop

/-- Reads the options and words that follow the name of a command. -/
def readBehind (command : String) (options : List Switch) (words : Nat)
    (arguments : List String) : Except Stop Settings :=
  ((readSide ⟨options, some words⟩ .empty none arguments).map (·.1)).mapError (.behind command)

/-- Reads what follows the name of a command. -/
def readCommand (name : String) (arguments : List String) : Except Stop (Settings × Command) :=
  match name with
  | "check" => do
    let settings ← readBehind "check" [.config, .verbose, .help] 0 arguments
    return (settings, .check)
  | "list" => do
    let settings ← readBehind "list" [.config, .verbose, .help, .format] 0 arguments
    return (settings, .list (settings.format.getD "table"))
  | "resolve" => do
    let settings ← readBehind "resolve" [.config, .verbose, .help] 1 arguments
    match settings.words with
    | target :: _ => return (settings, .resolve target)
    | [] => throw (.wrong .missingTarget)
  | "help" =>
    match arguments with
    | [] => .error (.help none)
    | topic :: rest =>
      if topic ∉ commandNames then .error (.wrong (.unknownCommand topic))
      else
        match rest with
        | [] => .error (.help (some topic))
        | other :: _ => .error (.wrong (.unknownCommand other))
  | other => .error (.wrong (.unknownCommand other))

/-- Reads a command line.  What is set behind the command counts more than what is set in front of
it. -/
def readArguments (arguments : List String) : Except Stop Invocation := do
  let (outer, rest) ← readSide front .empty none arguments
  match rest with
  | [] => throw (.wrong .missingCommand)
  | name :: rest =>
    let (inner, command) ← readCommand name rest
    return ⟨inner.config <|> outer.config,
      if inner.verbosity = 0 then outer.verbosity else inner.verbosity, command⟩

end ScopedAuth.Cli
