/-
Headers as they travel.

A header is a sequence of rows of 32 bits. A row is divided into fields, the first of which takes
the highest bits, and its octets are sent from the highest to the lowest. The rows below are those
of the protocol standards, field by field with its width. Addresses and options follow as they are.

The number that announces the next layer is not taken from the header but given beside it, so that
it is plain which number stands on the wire.
-/
import LinkTap.Frame.Dissection

set_option autoImplicit false

namespace LinkTap.Frame

/-- The number that fields make up. Each one has a width in bits and a value. -/
def pack (fields : List (Nat × Nat)) : Nat :=
  fields.foldl (fun word field => word * Nat.pow 2 field.1 + field.2) 0

/-- A row of fields, 32 bits in all. -/
def row (fields : List (Nat × Nat)) : Bytes := Bytes.ofNatBE 4 (pack fields)

/-- Two addresses and the type, 14 octets. -/
def Ethernet.wire (destination source : MacAddress) (etherType : Nat) : Bytes :=
  destination.toBytes ++ source.toBytes ++ Bytes.ofNatBE 2 etherType

/-- Three rows, two addresses and the options. -/
def Ipv4.wire (h : Ipv4) (protocol : Nat) (options : Bytes) : Bytes :=
  row [(4, h.version.toNat), (4, h.ihl.toNat), (8, h.tos.toNat), (16, h.totalLength.toNat)]
    ++ row [(16, h.identification.toNat), (1, h.flags.reserved.toNat),
      (1, h.flags.dontFragment.toNat), (1, h.flags.moreFragments.toNat),
      (13, h.fragmentOffset.toNat)]
    ++ row [(8, h.ttl.toNat), (8, protocol), (16, h.checksum.toNat)]
    ++ h.source.toBytes ++ h.destination.toBytes ++ options

/-- Two rows and two addresses. -/
def Ipv6.wire (h : Ipv6) (nextHeader : Nat) : Bytes :=
  row [(4, h.version.toNat), (8, h.trafficClass.toNat), (20, h.flowLabel.toNat)]
    ++ row [(16, h.payloadLength.toNat), (8, nextHeader), (8, h.hopLimit.toNat)]
    ++ h.source.toBytes ++ h.destination.toBytes

/-- The four bits behind the data offset are reserved and sent as zero. -/
def Tcp.wire (h : Tcp) (options : Bytes) : Bytes :=
  row [(16, h.sourcePort.toNat), (16, h.destinationPort.toNat)]
    ++ row [(32, h.sequence.toNat)]
    ++ row [(32, h.acknowledgment.toNat)]
    ++ row [(4, h.dataOffset.toNat), (4, 0), (1, h.flags.cwr.toNat), (1, h.flags.ece.toNat),
      (1, h.flags.urg.toNat), (1, h.flags.ack.toNat), (1, h.flags.psh.toNat),
      (1, h.flags.rst.toNat), (1, h.flags.syn.toNat), (1, h.flags.fin.toNat), (16, h.window.toNat)]
    ++ row [(16, h.checksum.toNat), (16, h.urgentPointer.toNat)]
    ++ options

/-- Two rows. -/
def Udp.wire (h : Udp) : Bytes :=
  row [(16, h.sourcePort.toNat), (16, h.destinationPort.toNat)]
    ++ row [(16, h.length.toNat), (16, h.checksum.toNat)]

/-! ## Ranges

Only some fields of a header have a range that is smaller than their type. -/

/-- The options fill up the words of four octets that the header declares beyond its fixed five. -/
structure Ipv4.InRange (h : Ipv4) (options : Bytes) : Prop where
  version : h.version.toNat < 16
  five_le_ihl : 5 ≤ h.ihl.toNat
  ihl_le : h.ihl.toNat ≤ 15
  fragmentOffset : h.fragmentOffset.toNat < 8192
  options : options.length = 4 * (h.ihl.toNat - 5)

structure Ipv6.InRange (h : Ipv6) : Prop where
  version : h.version.toNat < 16
  flowLabel : h.flowLabel.toNat < 1048576

/-- As for IPv4, the options fill up what the data offset declares. -/
structure Tcp.InRange (h : Tcp) (options : Bytes) : Prop where
  five_le_dataOffset : 5 ≤ h.dataOffset.toNat
  dataOffset_le : h.dataOffset.toNat ≤ 15
  options : options.length = 4 * (h.dataOffset.toNat - 5)

/-! ## Layers

Headers that have no options are sent without any. -/

namespace Network

/-- The type that announces the header. -/
def etherType : Network → EtherType
  | ipv4 _ => .ipv4
  | ipv6 _ => .ipv6

/-- Its number. -/
def typeNumber : Network → Nat
  | ipv4 _ => 0x0800
  | ipv6 _ => 0x86DD

/-- The header of either version. -/
def wire (n : Network) (protocol : Nat) (options : Bytes) : Bytes :=
  match n with
  | ipv4 h => h.wire protocol options
  | ipv6 h => h.wire protocol

def InRange (n : Network) (options : Bytes) : Prop :=
  match n with
  | ipv4 h => h.InRange options
  | ipv6 h => h.InRange ∧ options = []

end Network

namespace Transport

/-- The protocol that announces the header. -/
def protocol : Transport → IpProtocol
  | tcp _ => .tcp
  | udp _ => .udp

/-- Its number. -/
def protocolNumber : Transport → Nat
  | tcp _ => 6
  | udp _ => 17

/-- The header of either protocol. -/
def wire (t : Transport) (options : Bytes) : Bytes :=
  match t with
  | tcp h => h.wire options
  | udp h => h.wire

def InRange (t : Transport) (options : Bytes) : Prop :=
  match t with
  | tcp h => h.InRange options
  | udp _ => options = []

end Transport

end LinkTap.Frame
