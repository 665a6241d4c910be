/-
The network layer of a frame: internet headers of both versions.

An IPv4 header declares its own length in units of four octets; it is accepted when that length is
at least the fixed part and all of it is present. An IPv6 header has a fixed length.
-/
import LinkTap.Bytes
import LinkTap.IpAddress

set_option autoImplicit false

namespace LinkTap.Frame

/-- What an internet header announces behind itself. -/
inductive IpProtocol where
  | icmp
  | igmp
  | tcp
  | udp
  | icmpv6
  /-- Any other number. -/
  | other (value : UInt8)
  deriving DecidableEq, Repr

namespace IpProtocol

def toByte : IpProtocol → UInt8
  | icmp => 1
  | igmp => 2
  | tcp => 6
  | udp => 17
  | icmpv6 => 58
  | other value => value

def ofByte (value : UInt8) : IpProtocol :=
  if value = 1 then icmp
  else if value = 2 then igmp
  else if value = 6 then tcp
  else if value = 17 then udp
  else if value = 58 then icmpv6
  else other value

/-- The name, or the number where there is none. -/
def text : IpProtocol → String
  | icmp => "ICMP"
  | igmp => "IGMP"
  | tcp => "TCP"
  | udp => "UDP"
  | icmpv6 => "ICMPv6"
  | other value => toString value.toNat

/-- The name for diagnostics, which sets unnamed protocols apart. -/
def label : IpProtocol → String
  | other value => s!"Custom({value.toNat})"
  | named => named.text

end IpProtocol

/-! ## Version 4 -/

/-- The three flag bits that precede the fragment offset. -/
structure IpFlags where
  reserved : Bool
  dontFragment : Bool
  moreFragments : Bool
  deriving DecidableEq, Repr

/-- Read the flags from the lowest three bits of a number. -/
def IpFlags.ofBits (bits : Nat) : IpFlags :=
  { reserved := bits.testBit 2, dontFragment := bits.testBit 1, moreFragments := bits.testBit 0 }

/-- A decoded IPv4 header without its options. -/
structure Ipv4 where
  version : UInt8
  /-- Header length in units of four octets. -/
  ihl : UInt8
  tos : UInt8
  totalLength : UInt16
  identification : UInt16
  flags : IpFlags
  fragmentOffset : UInt16
  ttl : UInt8
  protocol : IpProtocol
  checksum : UInt16
  source : Ipv4Address
  destination : Ipv4Address
  deriving DecidableEq, Repr

namespace Ipv4

/-- Octets of the header without options. -/
def minHeaderLength : Nat := 20

/-- Octets of the header, options included. -/
def headerLength (h : Ipv4) : Nat := h.ihl.toNat * 4

/-- Decode the header at the front of `bs`. -/
def ofBytes? (bs : Bytes) : Option Ipv4 :=
  let first := Bytes.octet bs 0
  let declared := (first % 16).toNat * 4
  if bs.length < minHeaderLength ∨ declared < minHeaderLength ∨ bs.length < declared then none
  else
    let fragment := Bytes.be16 bs 6
    some
      { version := first / 16
        ihl := first % 16
        tos := Bytes.octet bs 1
        totalLength := Bytes.be16 bs 2
        identification := Bytes.be16 bs 4
        flags := IpFlags.ofBits (fragment.toNat / 0x2000)
        fragmentOffset := fragment % 0x2000
        ttl := Bytes.octet bs 8
        protocol := IpProtocol.ofByte (Bytes.octet bs 9)
        checksum := Bytes.be16 bs 10
        source := Ipv4Address.ofBytes (bs.drop 12)
        destination := Ipv4Address.ofBytes (bs.drop 16) }

end Ipv4

/-! ## Version 6 -/

/-- A decoded IPv6 header. -/
structure Ipv6 where
  version : UInt8
  trafficClass : UInt8
  /-- Twenty bits. -/
  flowLabel : UInt32
  payloadLength : UInt16
  nextHeader : IpProtocol
  hopLimit : UInt8
  source : Ipv6Address
  destination : Ipv6Address
  deriving DecidableEq, Repr

namespace Ipv6

/-- Octets of the header. -/
def headerLength : Nat := 40

/-- Decode the header at the front of `bs`. -/
def ofBytes? (bs : Bytes) : Option Ipv6 :=
  if bs.length < headerLength then none
  else
    let word := (Bytes.be32 bs 0).toNat
    some
      { version := UInt8.ofNat (word / 0x10000000)
        trafficClass := UInt8.ofNat (word / 0x100000)
        flowLabel := UInt32.ofNat (word % 0x100000)
        payloadLength := Bytes.be16 bs 4
        nextHeader := IpProtocol.ofByte (Bytes.octet bs 6)
        hopLimit := Bytes.octet bs 7
        source := Ipv6Address.ofBytes (bs.drop 8)
        destination := Ipv6Address.ofBytes (bs.drop 24) }

end Ipv6

end LinkTap.Frame
