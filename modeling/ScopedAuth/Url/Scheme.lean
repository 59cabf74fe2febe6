/-!
# Schemes

The scheme of a URL is what stands before its first colon, if that reads as a name.  The schemes of
the web are special: their URLs always have a host, and a port of their own unless one is given.
-/

namespace ScopedAuth.Url

/-- A port number. -/
abbrev Port := UInt16

/-- How URLs of a scheme are laid out. -/
inductive Layout where
  /-- Files: a host may be given, a port may not. -/
  | file
  /-- The other schemes of the web, with their default ports. -/
  | web (port : Port)
  /-- Any other scheme. -/
  | general
  deriving DecidableEq

/-- The layout of a scheme, given in lower case. -/
def Layout.ofScheme (scheme : String) : Layout :=
  if scheme = "http" ∨ scheme = "ws" then .web 80
  else if scheme = "https" ∨ scheme = "wss" then .web 443
  else if scheme = "ftp" then .web 21
  else if scheme = "file" then .file
  else .general

/-- The port that a URL has when none is given. -/
def Layout.defaultPort? : Layout → Option Port
  | .web port => some port
  | _ => none

/-- Whether the scheme is one of the web. -/
def Layout.isSpecial : Layout → Bool
  | .general => false
  | _ => true

/-- Whether a character may follow the first letter of a scheme. -/
def isSchemeChar (c : Char) : Bool :=
  c.isAlphanum || c = '+' || c = '-' || c = '.'

/-- The scheme that a text begins with, in lower case, and what follows its colon. -/
def splitScheme? (text : List Char) : Option (List Char × List Char) :=
  match text.takeWhile isSchemeChar, text.dropWhile isSchemeChar with
  | c :: name, ':' :: rest =>
    if c.isAlpha then some ((c :: name).map Char.toLower, rest) else none
  | _, _ => none

end ScopedAuth.Url
