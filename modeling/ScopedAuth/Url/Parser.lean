import ScopedAuth.Url.Basic
import ScopedAuth.Url.Path

/-!
# Reading URLs

An absolute URL is read from its text: scheme, authority, path, query and fragment, each up to the
character that ends it.  The text holds no blanks, controls or backslashes; a target is refused
before, if it does.
-/

namespace ScopedAuth.Url

open ScopedAuth.Text

/-! ### Authority -/

/-- Whether a character ends the authority. -/
def endsAuthority (c : Char) : Bool :=
  c = '/' || c = '?' || c = '#'

/-- Whether a character ends the path. -/
def endsPath (c : Char) : Bool :=
  c = '?' || c = '#'

/-- Whether a character stands for itself in a user name or password. -/
def keptInUserinfo (c : Char) : Bool :=
  Host.isPrintableAscii c && !" \"#<>?`\x7b\x7d/:;=@[\\]^|".toList.contains c

/-- Splits at the last at sign into what stands before and after. -/
def splitUserinfo? (text : List Char) : Option (List Char × List Char) :=
  match text.reverse.dropWhile (· != '@') with
  | [] => none
  | _ :: before => some (before.reverse, (text.reverse.takeWhile (· != '@')).reverse)

/-- Splits off the port at the first colon that stands outside brackets. -/
def splitPort (inside : Bool) : List Char → List Char × Option (List Char)
  | [] => ([], none)
  | c :: rest =>
    if c = ':' && !inside then ([], some rest)
    else
      let inside := if c = '[' then true else if c = ']' then false else inside
      let (host, port) := splitPort inside rest
      (c :: host, port)

/-- The port that digits spell; none if there are no digits or if it is the scheme's own. -/
def parsePort (layout : Layout) (digits : List Char) : Except Error (Option Port) :=
  if !digits.all Char.isDigit then .error .invalidPort
  else
    let n := Ipv4.valueOf 10 digits
    if 65535 < n then .error .invalidPort
    else if digits.isEmpty ∨ layout.defaultPort? = some n.toUInt16 then .ok none
    else .ok (some n.toUInt16)

/-- Splits a user name from a password at the first colon, and escapes both. -/
def parseUserinfo (text : List Char) : String × String :=
  let escape := fun part => String.ofList (Percent.encode keptInUserinfo part)
  match text.dropWhile (· != ':') with
  | [] => (escape text, "")
  | _ :: password => (escape (text.takeWhile (· != ':')), escape password)

/-- Reads the host; outside the web it may be left out. -/
def parseHost (layout : Layout) (text : List Char) : Except Error (Option Host) :=
  match layout with
  | .general => Host.parseOpaque text
  | _ => if text.isEmpty then .error .emptyHost else (Host.parse text).map some

/-- Reads an authority; `isLast` says that the URL ends with it.  Neither a port nor a user may be
given without a host. -/
def parseAuthority (layout : Layout) (text : List Char) (isLast : Bool) :
    Except Error Authority := do
  let (userinfo, rest) := (splitUserinfo? text).getD ([], text)
  if text.head? = some '@' ∧ rest.isEmpty ∧ userinfo.isEmpty ∧ !isLast then throw .emptyHost
  let (username, password) := parseUserinfo userinfo
  let (hostText, portText) := splitPort false rest
  let host ← parseHost layout hostText
  if host.isNone ∧ portText.isSome then throw .emptyHost
  let port ← parsePort layout (portText.getD [])
  if host.isNone ∧ ¬ (username = "" ∧ password = "") then throw .emptyHost
  return ⟨username, password, host, port⟩

/-! ### Query and fragment -/

/-- Whether a character stands for itself in a query. -/
def keptInQuery (layout : Layout) (c : Char) : Bool :=
  Host.isPrintableAscii c && !" \"#<>".toList.contains c && !(layout.isSpecial && c = '\'')

/-- Whether a character stands for itself in a fragment. -/
def keptInFragment (c : Char) : Bool :=
  Host.isPrintableAscii c && !" \"<>`".toList.contains c

/-- Reads a query and a fragment, if a text begins with them. -/
def parseTail (layout : Layout) (text : List Char) : Option String × Option String :=
  let query := fun part => String.ofList (Percent.encode (keptInQuery layout) part)
  let fragment := fun part => String.ofList (Percent.encode keptInFragment part)
  match text with
  | '?' :: rest =>
    (some (query (rest.takeWhile (· != '#'))),
      match rest.dropWhile (· != '#') with
      | _ :: part => some (fragment part)
      | [] => none)
  | '#' :: part => (none, some (fragment part))
  | _ => (none, none)

/-! ### URLs -/

/-- Reads what follows the scheme and the slashes of a URL with an authority. -/
def parseWithAuthority (scheme : String) (layout : Layout) (text : List Char) :
    Except Error Url := do
  let rest := text.dropWhile (!endsAuthority ·)
  let authority ← parseAuthority layout (text.takeWhile (!endsAuthority ·)) rest.isEmpty
  let pathText := rest.takeWhile (!endsPath ·)
  let path := if layout = .general ∧ pathText.isEmpty then "" else (Path.parse layout pathText).1
  let (query, fragment) := parseTail layout (rest.dropWhile (!endsPath ·))
  return ⟨scheme, some authority, path, query, fragment⟩

/-- Reads what follows the scheme of a URL outside the web that has no authority: a path from the
root, or a text that is no path at all. -/
def parseWithoutAuthority (scheme : String) (text : List Char) : Url :=
  let pathText := text.takeWhile (!endsPath ·)
  let path := if pathText.head? = some '/' then (Path.parse .general pathText).1
    else String.ofList (Percent.encode Host.isPrintableAscii pathText)
  let (query, fragment) := parseTail .general (text.dropWhile (!endsPath ·))
  ⟨scheme, none, path, query, fragment⟩

/-- Reads the host of a file; the name of this machine counts as none, and a drive is no host. -/
def parseFileHost (text : List Char) : Except Error (Option Host) :=
  if text.isEmpty then .ok none
  else
    match Host.parse text with
    | .error e => .error e
    | .ok host => .ok (if host = .domain "localhost" then none else some host)

/-- Reads what follows the scheme of a file.  A drive at the start of the path leaves no host. -/
def parseFile (text : List Char) : Except Error Url := do
  let (hostText, rest) := match text with
    | '/' :: '/' :: rest =>
      let hostText := rest.takeWhile (!endsAuthority ·)
      if Path.isDrive hostText then ([], rest) else (hostText, rest.dropWhile (!endsAuthority ·))
    | _ => ([], text)
  let host ← parseFileHost hostText
  let (path, hasDrive) := Path.parse .file (rest.takeWhile (!endsPath ·))
  let (query, fragment) := parseTail .file (rest.dropWhile (!endsPath ·))
  return ⟨"file", some ⟨"", "", if hasDrive then none else host, none⟩, path, query, fragment⟩

/-- Reads what follows a scheme and its colon. -/
def parseAfterScheme (scheme : String) (text : List Char) : Except Error Url :=
  match Layout.ofScheme scheme with
  | .file => parseFile text
  | .web port => parseWithAuthority scheme (.web port) (text.dropWhile (· = '/'))
  | .general =>
    match text with
    | '/' :: '/' :: rest => parseWithAuthority scheme .general rest
    | _ => .ok (parseWithoutAuthority scheme text)

/-- Reads an absolute URL; a text that does not begin with a scheme is none. -/
def parse (text : List Char) : Except Error (Option Url) :=
  match splitScheme? text with
  | none => .ok none
  | some (scheme, rest) => (parseAfterScheme (String.ofList scheme) rest).map some

end ScopedAuth.Url
