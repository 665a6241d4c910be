/-
The transport layer of a frame: TCP and UDP headers.

A TCP header declares its own length in units of four octets; it is accepted when that length is at
least the fixed part and all of it is present. A UDP header has a fixed length.
-/
import LinkTap.Bytes

set_option autoImplicit false

namespace LinkTap.Frame

/-! ## TCP -/

/-- The control bits of a TCP header. -/
structure TcpFlags where
  fin : Bool
  syn : Bool
  rst : Bool
  psh : Bool
  ack : Bool
  urg : Bool
  ece : Bool
  cwr : Bool
  deriving DecidableEq, Repr

namespace TcpFlags

/-- Read the flags, the lowest bit first. -/
def ofByte (b : UInt8) : TcpFlags :=
  let bit := b.toNat.testBit
  { fin := bit 0, syn := bit 1, rst := bit 2, psh := bit 3
    ack := bit 4, urg := bit 5, ece := bit 6, cwr := bit 7 }

/-- Each flag with its name, in the order in which they are listed. -/
def named (f : TcpFlags) : List (Bool × String) :=
  [(f.syn, "SYN"), (f.ack, "ACK"), (f.fin, "FIN"), (f.rst, "RST"),
   (f.psh, "PSH"), (f.urg, "URG"), (f.ece, "ECE"), (f.cwr, "CWR")]

/-- The names of the flags that are set. -/
def text (f : TcpFlags) : String :=
  match (f.named.filter (·.1)).map (·.2) with
  | [] => "none"
  | names => String.intercalate "," names

end TcpFlags

/-- A decoded TCP header without its options. -/
structure Tcp where
  sourcePort : UInt16
  destinationPort : UInt16
  sequence : UInt32
  acknowledgment : UInt32
  /-- Header length in units of four octets. -/
  dataOffset : UInt8
  flags : TcpFlags
  window : UInt16
  checksum : UInt16
  urgentPointer : UInt16
  deriving DecidableEq, Repr

namespace Tcp

/-- Octets of the header without options. -/
def minHeaderLength : Nat := 20

/-- Octets of the header, options included. -/
def headerLength (h : Tcp) : Nat := h.dataOffset.toNat * 4

/-- Decode the header at the front of `bs`. -/
def ofBytes? (bs : Bytes) : Option Tcp :=
  let offset := Bytes.octet bs 12 / 16
  let declared := offset.toNat * 4
  if bs.length < minHeaderLength ∨ declared < minHeaderLength ∨ bs.length < declared then none
  else
    some
      { sourcePort := Bytes.be16 bs 0
        destinationPort := Bytes.be16 bs 2
        sequence := Bytes.be32 bs 4
        acknowledgment := Bytes.be32 bs 8
        dataOffset := offset
        flags := TcpFlags.ofByte (Bytes.octet bs 13)
        window := Bytes.be16 bs 14
        checksum := Bytes.be16 bs 16
        urgentPointer := Bytes.be16 bs 18 }

end Tcp

/-! ## UDP -/

/-- A decoded UDP header. -/
structure Udp where
  sourcePort : UInt16
  destinationPort : UInt16
  length : UInt16
  checksum : UInt16
  deriving DecidableEq, Repr

namespace Udp

/-- Octets of the header. -/
def headerLength : Nat := 8

/-- Decode the header at the front of `bs`. -/
def ofBytes? (bs : Bytes) : Option Udp :=
  if bs.length < headerLength then none
  else
    some
      { sourcePort := Bytes.be16 bs 0
        destinationPort := Bytes.be16 bs 2
        length := Bytes.be16 bs 4
        checksum := Bytes.be16 bs 6 }

/-- A checksum of zero means that none was computed. -/
def hasChecksum (h : Udp) : Bool := h.checksum != 0

end Udp

end LinkTap.Frame
