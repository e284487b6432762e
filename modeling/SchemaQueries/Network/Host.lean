import SchemaQueries.Network.Domain
import SchemaQueries.Network.IpAddress
import SchemaQueries.Network.Percent

/-!
# Hosts

What stands for a host in an address: a name, or one of the two kinds of numbers.

## Main definitions

* `Network.Host` — a host.
* `Network.HostError` — why a text denotes no host.
* `Network.Host.ofText` — the host that a text denotes where names are those of the web.
* `Network.Host.ofOpaque` — the host that a text denotes where names mean whatever they mean.
* `Network.Host.text` — the text of a host.
-/

set_option autoImplicit false
set_option relaxedAutoImplicit false

namespace SchemaQueries.Network

/-- A host. -/
inductive Host where
  | name (text : List Char)
  | ipv4 (address : Ipv4)
  | ipv6 (address : Ipv6)
  deriving DecidableEq, Repr

/-- Why a text denotes no host. -/
inductive HostError where
  | empty | invalidName | invalidCharacter | invalidIpv4 | invalidIpv6
  deriving DecidableEq, Repr

/-- The wording of what is wrong with a host. -/
def HostError.message : HostError → String
  | empty => "empty host"
  | invalidName => "invalid international domain name"
  | invalidCharacter => "invalid domain character"
  | invalidIpv4 => "invalid IPv4 address"
  | invalidIpv6 => "invalid IPv6 address"

namespace Host

/-- The text of a host. -/
def text : Host → List Char
  | name text => text
  | ipv4 address => address.text
  | ipv6 address => '[' :: address.text ++ [']']

/-- Whether the host is there at all. -/
def isEmpty (host : Host) : Bool :=
  host = name []

/-- The host whose text stands behind an opening bracket. -/
def ofBracketed (cs : List Char) : Except HostError Host :=
  match if cs.getLast? = some ']' then Ipv6.ofText? cs.dropLast else none with
  | some address => .ok (ipv6 address)
  | none => .error .invalidIpv6

/-- The host that a name denotes: a number if it ends in one. -/
def ofName (cs : List Char) : Except HostError Host :=
  match (percentDecodedText? cs).bind Domain.ascii? with
  | none => .error .invalidName
  | some [] => .error .empty
  | some text =>
    if Ipv4.endsInNumber text then
      match Ipv4.ofText? text with
      | some address => .ok (ipv4 address)
      | none => .error .invalidIpv4
    else .ok (name text)

/-- The host that a text denotes where names are those of the web. -/
def ofText : List Char → Except HostError Host
  | '[' :: rest => ofBracketed rest
  | cs => ofName cs

/-- Whether a name can hold the character where names mean whatever they mean. -/
def isOpaqueChar (c : Char) : Bool :=
  let dividing := ['\x00', '\t', '\n', '\r', ' ', '#', '/', ':', '<', '>', '?', '@', '[', '\\', ']',
    '^', '|']
  !dividing.contains c

/-- The host that a text denotes where names mean whatever they mean. -/
def ofOpaque : List Char → Except HostError Host
  | '[' :: rest => ofBracketed rest
  | cs => if cs.all isOpaqueChar then .ok (name (percentEncode [] cs)) else .error .invalidCharacter

end Host

end SchemaQueries.Network
