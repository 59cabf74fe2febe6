import ScopedAuth.Cli.Arguments

/-!
# Usage

What is printed about the program, and about each of its commands, when help is asked for.
-/

namespace ScopedAuth.Cli

/-- What is said about an option. -/
def Switch.line : Switch → String
  | .config => "  -c, --config <CONFIG>  Configuration file path"
  | .verbose => "  -v, --verbose...       Increase verbosity (-v, -vv)"
  | .format => "  -f, --format <FORMAT>  Output format (table, json) [default: table]"
  | .help => "  -h, --help             Print help"
  | .version => "  -V, --version          Print version"

/-- What is printed about the program itself. -/
def overview : List String :=
  ["Scoped credentials for HTTP authentication - see which credential each target gets",
    "",
    "Usage: realmkey [OPTIONS] <COMMAND>",
    "",
    "Commands:",
    "  check    Validate the configuration and build the authenticators",
    "  list     List targets with scoped credentials",
    "  resolve  Show the credential a target would be given",
    "  help     Print this message or the help of the given subcommand(s)",
    "",
    "Options:"] ++ [Switch.config, .verbose, .help, .version].map Switch.line

/-- What is printed about a command, or about the program itself. -/
def usage : Option String → List String
  | some "check" =>
    ["Validate the configuration and build the authenticators",
      "",
      "Usage: realmkey check [OPTIONS]",
      "",
      "Options:"] ++ [Switch.config, .verbose, .help].map Switch.line
  | some "list" =>
    ["List targets with scoped credentials",
      "",
      "Usage: realmkey list [OPTIONS]",
      "",
      "Options:"] ++ [Switch.config, .format, .verbose, .help].map Switch.line
  | some "resolve" =>
    ["Show the credential a target would be given",
      "",
      "Usage: realmkey resolve [OPTIONS] <TARGET>",
      "",
      "Arguments:",
      "  <TARGET>  Target URI, matched exactly",
      "",
      "Options:"] ++ [Switch.config, .verbose, .help].map Switch.line
  | some "help" =>
    ["Print this message or the help of the given subcommand(s)",
      "",
      "Usage: realmkey help [COMMAND]...",
      "",
      "Arguments:",
      "  [COMMAND]...  Print help for the subcommand(s)"]
  | _ => overview

end ScopedAuth.Cli
