import EventLedger.Address.Domain
import EventLedger.Address.Ip
import EventLedger.Address.Percent

/-!
# Hosts in addresses

* `AddressFault`, `AddressFault.message`: why a text is no address;
* `UrlHost`: a host by name or by number, or none;
* `UrlHost.opaque?`, `UrlHost.domain?`: the host that a text names, in addresses of any scheme and
  in those of the web.
-/

namespace EventLedger

/-- Why a text is no address. -/
inductive AddressFault where
  /-- It does not begin with a scheme. -/
  | noScheme
  | emptyHost
  | port
  | ipv4
  | ipv6
  | domainCharacter
  /-- It does not spell a name of the web. -/
  | domainName
  deriving DecidableEq, Repr

/-- The fault in words. -/
def AddressFault.message : AddressFault → String
  | .noScheme => "relative URL without a base"
  | .emptyHost => "empty host"
  | .port => "invalid port number"
  | .ipv4 => "invalid IPv4 address"
  | .ipv6 => "invalid IPv6 address"
  | .domainCharacter => "invalid domain character"
  | .domainName => "invalid international domain name"

/-- The host of an address. -/
inductive UrlHost where
  | absent
  | named (name : List Char)
  /-- A number of four bytes. -/
  | ipv4 (address : Nat)
  /-- Groups with colons between them. -/
  | ipv6 (groups : List Char)
  deriving DecidableEq, Repr

namespace UrlHost

/-- The host in brackets, if a text begins with one. -/
def bracketed? (cs : List Char) : Option (Except AddressFault UrlHost) :=
  match cs with
  | '[' :: inside =>
    let groups := inside.dropLast
    some (if inside.getLast? = some ']' ∧ Ip.isGrouped groups then .ok (.ipv6 groups)
      else .error .ipv6)
  | _ => none

/-- Characters that no host may have. -/
def forbidden : List Char :=
  ['\x00', '\t', '\n', '\r', ' ', '#', '/', ':', '<', '>', '?', '@', '[', '\\', ']', '^', '|']

/-- The host that a text names outside the web, where escapes stay. -/
def opaque? (cs : List Char) : Except AddressFault UrlHost :=
  (bracketed? cs).getD <|
    if cs.any forbidden.contains then .error .domainCharacter
    else .ok (if cs.isEmpty then .absent else .named cs)

/-- The name of the web that a text spells, escapes read. -/
def domainName? (cs : List Char) : Except AddressFault (List Char) :=
  match Percent.read cs with
  | .error _ => .error .domainName
  | .ok text =>
    match Domain.read text with
    | none => .error .domainName
    | some [] => .error .emptyHost
    | some name => .ok name

/-- The host that a text names in the web: what ends in a number is an address. -/
def domain? (cs : List Char) : Except AddressFault UrlHost :=
  (bracketed? cs).getD <| do
    let name ← domainName? cs
    if Ip.endsInNumber name then
      match Ip.loose? name with
      | some address => .ok (.ipv4 address)
      | none => .error .ipv4
    else .ok (.named name)

end UrlHost

end EventLedger
