import AuthGateway.Text.Blank
import AuthGateway.Url.Domain
import AuthGateway.Url.Escape
import AuthGateway.Url.Ipv6

/-!
Hosts of URLs. Where the scheme is one of the well-known ones a host is an
address or a domain in ASCII and lower case; elsewhere it is any text without
delimiters. Text in brackets is an IPv6 address in both cases.
-/
namespace AuthGateway.Url

inductive ParseError where
  | emptyHost
  | invalidDomain
  | invalidPort
  | invalidIpv4
  | invalidIpv6
  | invalidHostCharacter
  | relative
deriving DecidableEq

def ParseError.message : ParseError → String
  | .emptyHost => "empty host"
  | .invalidDomain => "invalid international domain name"
  | .invalidPort => "invalid port number"
  | .invalidIpv4 => "invalid IPv4 address"
  | .invalidIpv6 => "invalid IPv6 address"
  | .invalidHostCharacter => "invalid domain character"
  | .relative => "relative URL without a base"

/-- The empty host is the empty domain. -/
inductive Host where
  | domain (name : List Char)
  | ipv4 (address : UInt32)
  | ipv6 (groups : List Nat)
deriving DecidableEq

namespace Host

def chars : Host → List Char
  | .domain name => name
  | .ipv4 address => Ipv4.chars address
  | .ipv6 groups => '[' :: (Ipv6.chars groups ++ [']'])

def isForbidden (c : Char) : Bool :=
  c.toNat == 0 || " #/:<>?@[\\]^|\t\n\r".toList.contains c

def bracketed (inside : List Char) : Except ParseError Host :=
  if inside.getLast? = some ']' then
    match Ipv6.ofChars? inside.dropLast with
    | some groups => .ok (.ipv6 groups)
    | none => .error .invalidIpv6
  else .error .invalidIpv6

def special : List Char → Except ParseError Host
  | '[' :: inside => bracketed inside
  | cs =>
    match (Utf8.decodeChars? (Percent.decode (Utf8.encodeChars cs))).bind Domain.ascii? with
    | none => .error .invalidDomain
    | some [] => .error .emptyHost
    | some name =>
      if Ipv4.endsInNumber name then
        match Ipv4.ofChars? name with
        | some address => .ok (.ipv4 address)
        | none => .error .invalidIpv4
      else .ok (.domain name)

def general : List Char → Except ParseError Host
  | '[' :: inside => bracketed inside
  | cs =>
    if cs.any isForbidden then .error .invalidHostCharacter
    else .ok (.domain (Percent.encode Escape.isControl cs))

end Host

end AuthGateway.Url
