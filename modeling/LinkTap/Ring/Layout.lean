/-
How blocks and packet records lie in ring memory.

A ring is a row of blocks of equal size. A block begins with a descriptor that carries its ownership
status and says how many records follow and where the first one is. A record begins with a header
that gives its capture time, the number of captured octets and where they lie, and the distance to
the next record. All fields are least significant octet first, and all offsets are relative to the
start of the block or of the record they belong to.
-/
import LinkTap.Bytes
import LinkTap.Timestamp

set_option autoImplicit false

namespace LinkTap.Ring

/-! ## Constants -/

/-- The version number that selects block-wise rings. -/
def tpacketVersion : Nat := 2

/-- The status of a block that the producer owns. -/
def kernelOwned : UInt32 := 0

/-- The status bit of a block that the consumer owns. -/
def userBit : UInt32 := 1

/-- The frame size announced when a ring is requested. -/
def frameSize : Nat := 2048

/-- Milliseconds after which a partly filled block is handed over. -/
def retireTimeoutMs : Nat := 100

/-- The most octets a record may hold. -/
def maxSnapLength : Nat := 65536

/-- Octets of a block descriptor. -/
def blockHeaderLength : Nat := 48

/-- Octets of a record header. -/
def recordHeaderLength : Nat := 48

/-- Where the status word lies in a block. -/
def statusOffset : Nat := 8

/-- Whether a status word says that the consumer owns the block. -/
def isUserOwned (status : UInt32) : Bool := status.toNat.testBit 0

/-! ## Headers -/

/-- A decoded block descriptor. -/
structure BlockHeader where
  version : UInt32
  status : UInt32
  packetCount : UInt32
  /-- Where the first record begins. -/
  firstOffset : UInt32
  /-- Octets in use. -/
  usedLength : UInt32
  sequence : UInt64
  deriving DecidableEq, Repr

/-- Decode the descriptor at the front of `bs`. -/
def BlockHeader.ofBytes (bs : Bytes) : BlockHeader :=
  { version := Bytes.le32 bs 0
    status := Bytes.le32 bs statusOffset
    packetCount := Bytes.le32 bs 12
    firstOffset := Bytes.le32 bs 16
    usedLength := Bytes.le32 bs 20
    sequence := Bytes.le64 bs 24 }

/-- A decoded record header. -/
structure RecordHeader where
  /-- Distance to the next record; zero marks the last one. -/
  nextOffset : UInt32
  seconds : UInt32
  nanos : UInt32
  /-- Captured octets. -/
  snapLength : UInt32
  /-- Octets on the wire. -/
  wireLength : UInt32
  status : UInt32
  /-- Where the captured octets begin. -/
  macOffset : UInt16
  /-- Where the network header begins. -/
  netOffset : UInt16
  deriving DecidableEq, Repr

namespace RecordHeader

/-- Decode the header at the front of `bs`. -/
def ofBytes (bs : Bytes) : RecordHeader :=
  { nextOffset := Bytes.le32 bs 0
    seconds := Bytes.le32 bs 4
    nanos := Bytes.le32 bs 8
    snapLength := Bytes.le32 bs 12
    wireLength := Bytes.le32 bs 16
    status := Bytes.le32 bs 20
    macOffset := Bytes.le16 bs 24
    netOffset := Bytes.le16 bs 26 }

/-- When the record was captured. -/
def time (h : RecordHeader) : Timestamp := Timestamp.sinceEpoch h.seconds.toNat h.nanos.toNat

end RecordHeader

end LinkTap.Ring
