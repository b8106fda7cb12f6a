import WampClient.Idna.Domain
import WampClient.Url.Fault
import WampClient.Url.Ipv6
import WampClient.Url.Percent

/-! # Hosts

A host of a web address is a domain name in ASCII, an IPv4 address, or an IPv6 address in brackets.
-/

namespace WampClient.Url

inductive Host where
  | domain (name : List Char)
  | ipv4 (address : Ipv4)
  | ipv6 (address : Ipv6)
  deriving DecidableEq, Repr

namespace Host

def parseBracketed (text : List Char) : Except Fault Host :=
  match text.reverse with
  | ']' :: inner =>
    match Ipv6.parse? inner.reverse with
    | some a => .ok (.ipv6 a)
    | none => .error .invalidIpv6
  | _ => .error .invalidIpv6

def ofAscii (name : List Char) : Except Fault Host :=
  if name.isEmpty then .error .emptyHost
  else if endsInNumber name then
    match Ipv4.parse? name with
    | some a => .ok (.ipv4 a)
    | none => .error .invalidIpv4
  else .ok (.domain name)

/-- Reads the host of a web address. Escapes in a domain name are resolved before anything else, so
    an escaped letter is as good as a plain one. -/
def parse (text : List Char) : Except Fault Host :=
  match text with
  | '[' :: rest => parseBracketed rest
  | _ =>
    match Utf8.decode (percentDecode (Utf8.encode text)) with
    | .error _ => .error .invalidDomain
    | .ok decoded =>
      match Idna.toAscii? decoded with
      | none => .error .invalidDomain
      | some name => ofAscii name

def render : Host → List Char
  | .domain name => name
  | .ipv4 a => a.render
  | .ipv6 a => '[' :: (a.render ++ [']'])

end Host

end WampClient.Url
