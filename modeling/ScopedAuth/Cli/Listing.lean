import ScopedAuth.Config.Authenticators
import ScopedAuth.Json.Printer

/-!
# Listings

One row for everything that is stored: the targets of Basic in ascending order, then those of NTLM.
Passwords are not listed.
-/

namespace ScopedAuth.Cli

/-- A target that something is stored for. -/
structure Row where
  target : String
  family : Family
  username : Option String
  deriving DecidableEq

/-- The rows of an authenticator. -/
def rowsOf {family : Family} (auth : Authenticator family) : List Row :=
  auth.store.items.entries.map fun (target, entry) => ⟨target, family, entry.val.username?⟩

/-- The rows of all authenticators. -/
def rows (auths : Authenticators) : List Row :=
  rowsOf auths.basic ++ rowsOf auths.ntlm

namespace Row

/-- A row as a JSON object. -/
def json (row : Row) : Json :=
  .object [("target", .string row.target), ("scheme", .string row.family.name),
    ("username", match row.username with
      | some username => .string username
      | none => .null)]

end Row

/-- Fills a text up with blanks to a width; a longer text stays as it is. -/
def padded (width : Nat) (text : String) : String :=
  text ++ String.ofList (List.replicate (width - text.length) ' ')

/-- A line of the table. -/
def tableLine (target scheme username : String) : String :=
  padded 50 target ++ " " ++ padded 8 scheme ++ " " ++ username

/-- The lines of the table. -/
def table (rows : List Row) : List String :=
  tableLine "TARGET" "SCHEME" "USERNAME" :: String.ofList (List.replicate 72 '-') ::
    rows.map fun row => tableLine row.target row.family.name (row.username.getD "-")

/-- The lines of a listing: a JSON array if that is the format, else a table.  Whatever the format,
an empty listing says that it is. -/
def listing (format : String) (rows : List Row) : List String :=
  if rows.isEmpty then ["No scoped credentials configured"]
  else if format = "json" then [Json.pretty (.array (rows.map Row.json))]
  else table rows

end ScopedAuth.Cli
