/-
The link layer of a frame: destination, source and the type of what follows.

The header is fourteen octets. Types without a name of their own keep their number, so the type
field is never lost in decoding.
-/
import LinkTap.MacAddress

set_option autoImplicit false

namespace LinkTap.Frame

/-- What an Ethernet header announces behind itself. -/
inductive EtherType where
  | ipv4
  | arp
  | vlan
  | ipv6
  | lldp
  /-- Any other number, length fields included. -/
  | other (value : UInt16)
  deriving DecidableEq, Repr

namespace EtherType

def toWord : EtherType → UInt16
  | ipv4 => 0x0800
  | arp => 0x0806
  | vlan => 0x8100
  | ipv6 => 0x86DD
  | lldp => 0x88CC
  | other value => value

def ofWord (value : UInt16) : EtherType :=
  if value = 0x0800 then ipv4
  else if value = 0x0806 then arp
  else if value = 0x8100 then vlan
  else if value = 0x86DD then ipv6
  else if value = 0x88CC then lldp
  else other value

/-- The name, or the number in hexadecimal where there is none. -/
def text : EtherType → String
  | ipv4 => "IPv4"
  | arp => "ARP"
  | vlan => "VLAN"
  | ipv6 => "IPv6"
  | lldp => "LLDP"
  | other value => "0x" ++ (Numeral.hexPadded 4 value.toNat).toUpper

/-- The name for diagnostics, which sets unnamed types apart. -/
def label : EtherType → String
  | other value => s!"Custom({value.toNat})"
  | named => named.text

end EtherType

/-- A decoded Ethernet header. -/
structure Ethernet where
  destination : MacAddress
  source : MacAddress
  etherType : EtherType
  deriving DecidableEq, Repr

namespace Ethernet

/-- Octets of the header. -/
def headerLength : Nat := 14

/-- Decode the header at the front of `bs`. -/
def ofBytes? (bs : Bytes) : Option Ethernet :=
  if bs.length < headerLength then none
  else do
    let destination ← MacAddress.ofBytes? bs
    let source ← MacAddress.ofBytes? (bs.drop 6)
    return { destination, source, etherType := EtherType.ofWord (Bytes.be16 bs 12) }

end Ethernet

end LinkTap.Frame
