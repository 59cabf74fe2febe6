import ScopedAuth.Url.Host
import ScopedAuth.Url.Scheme

/-!
# URLs

A URL is kept in its parts, each in the spelling in which it is written out.
-/

namespace ScopedAuth

/-- Who is asked: a host and a port, and as whom. -/
structure Url.Authority where
  /-- The user name, escaped. -/
  username : String
  /-- The password of the user, escaped. -/
  password : String
  host : Option Url.Host
  /-- The port, unless it is the scheme's own. -/
  port : Option Url.Port
  deriving DecidableEq

/-- A URL, with every part but its authority escaped and ready to be written out. -/
structure Url where
  scheme : String
  authority : Option Url.Authority
  path : String
  query : Option String
  fragment : Option String
  deriving DecidableEq

namespace Url

/-- The user name and password before the at sign. -/
def Authority.userinfo (authority : Authority) : String :=
  if authority.username = "" ∧ authority.password = "" then ""
  else if authority.password = "" then authority.username ++ "@"
  else authority.username ++ ":" ++ authority.password ++ "@"

/-- The authority as text. -/
def Authority.text (authority : Authority) : String :=
  authority.userinfo ++ (authority.host.elim "" Host.text) ++
    (authority.port.elim "" fun port => ":" ++ toString port.toNat)

/-- The URL as text.  A path that begins with two slashes is not to be read as an authority. -/
def text (url : Url) : String :=
  let start := match url.authority with
    | some authority => "//" ++ authority.text
    | none => if url.path.startsWith "//" then "/." else ""
  url.scheme ++ ":" ++ start ++ url.path ++ (url.query.elim "" ("?" ++ ·)) ++
    (url.fragment.elim "" ("#" ++ ·))

/-- The host that the URL points at. -/
def host? (url : Url) : Option Host :=
  url.authority.bind Authority.host

/-- The port that is given, or else the port of the scheme. -/
def port? (url : Url) : Option Port :=
  (url.authority.bind Authority.port).or (Layout.ofScheme url.scheme).defaultPort?

end Url

end ScopedAuth
