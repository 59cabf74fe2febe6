import ScopedAuth.Idna.Domain
import ScopedAuth.Text.Percent
import ScopedAuth.Url.Ipv4
import ScopedAuth.Url.Ipv6

/-!
# Hosts

The host of a URL of the web is a domain in ASCII or an address; that of any other URL is kept as it
stands, with its characters outside ASCII escaped.
-/

namespace ScopedAuth.Url

open ScopedAuth.Text

/-- Why a text is not a URL. -/
inductive Error where
  | emptyHost
  | invalidDomain
  | invalidPort
  | invalidIpv4
  | invalidIpv6
  | invalidDomainCharacter
  deriving DecidableEq

/-- The wording of an error. -/
def Error.message : Error → String
  | .emptyHost => "empty host"
  | .invalidDomain => "invalid international domain name"
  | .invalidPort => "invalid port number"
  | .invalidIpv4 => "invalid IPv4 address"
  | .invalidIpv6 => "invalid IPv6 address"
  | .invalidDomainCharacter => "invalid domain character"

/-- What a URL points at. -/
inductive Host where
  | domain (name : String)
  | ipv4 (address : Nat)
  | ipv6 (pieces : List Nat)
  deriving DecidableEq

namespace Host

/-- The host as it stands in a URL. -/
def text : Host → String
  | .domain name => name
  | .ipv4 address => Ipv4.text address
  | .ipv6 pieces => "[" ++ Ipv6.text pieces ++ "]"

/-- Reads what stands behind an opening bracket, up to the closing one at the end. -/
def parseBracketed (text : List Char) : Except Error Host :=
  match text.reverse with
  | ']' :: inner =>
    match Ipv6.parse? inner.reverse with
    | some pieces => .ok (.ipv6 pieces)
    | none => .error .invalidIpv6
  | _ => .error .invalidIpv6

/-- Reads a domain in ASCII, which may turn out to be an address. -/
def ofAscii (name : List Char) : Except Error Host :=
  if name.isEmpty then .error .emptyHost
  else if Ipv4.endsInNumber name then
    match Ipv4.parse? name with
    | some address => .ok (.ipv4 address)
    | none => .error .invalidIpv4
  else .ok (.domain (String.ofList name))

/-- Reads the host of a URL of the web. -/
def parse (text : List Char) : Except Error Host :=
  match text with
  | '[' :: rest => parseBracketed rest
  | _ =>
    match (Percent.decodeText? text).bind Idna.toAscii? with
    | some name => ofAscii name
    | none => .error .invalidDomain

/-- Whether a character may not stand in a host outside the web. -/
def isForbidden (c : Char) : Bool :=
  c = '\x00' || " \t\n\r#/:<>?@[\\]^|".toList.contains c

/-- Whether a character stands for itself where only controls are escaped. -/
def isPrintableAscii (c : Char) : Bool :=
  0x20 ≤ c.toNat && c.toNat < 0x7F

/-- Reads the host of any other URL, which may be empty. -/
def parseOpaque (text : List Char) : Except Error (Option Host) :=
  match text with
  | [] => .ok none
  | '[' :: rest => (parseBracketed rest).map some
  | _ =>
    if text.any isForbidden then .error .invalidDomainCharacter
    else .ok (some (.domain (String.ofList (Percent.encode isPrintableAscii text))))

end Host

end ScopedAuth.Url
