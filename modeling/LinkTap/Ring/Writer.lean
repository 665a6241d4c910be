/-
The producer's side of a block ring.

A block is filled from the front. Behind room for the descriptor come the records, one after
another, each with its header, a gap, and its octets. A record takes up a multiple of 16 octets, and
the last one names no next one. Once all records lie in the block, the descriptor says how many
there are and where the first one is. The status word comes last and hands the block over.

A record can be drafted with a length or a distance that is not the true one. Nothing else follows
such a claim, so a block that breaks the rules of a walk can be filled as well.
-/
import LinkTap.Ring.Layout
import LinkTap.Ring.Region

set_option autoImplicit false

namespace LinkTap

/-- Apply writes in order. All of them have to fit. -/
def Region.writeEach? (r : Region) : List (Nat × Bytes) → Option Region
  | [] => some r
  | w :: writes => (r.write w.1 w.2).bind fun r => r.writeEach? writes

namespace Ring

/-- What is written for a record header at address `start`. -/
def RecordHeader.writes (h : RecordHeader) (start : Nat) : List (Nat × Bytes) :=
  [(start, Bytes.ofNatLE 4 h.nextOffset.toNat),
    (start + 4, Bytes.ofNatLE 4 h.seconds.toNat),
    (start + 8, Bytes.ofNatLE 4 h.nanos.toNat),
    (start + 12, Bytes.ofNatLE 4 h.snapLength.toNat),
    (start + 16, Bytes.ofNatLE 4 h.wireLength.toNat),
    (start + 20, Bytes.ofNatLE 4 h.status.toNat),
    (start + 24, Bytes.ofNatLE 2 h.macOffset.toNat),
    (start + 26, Bytes.ofNatLE 2 h.netOffset.toNat)]

/-! ## Records -/

structure Draft where
  payload : Bytes
  seconds : UInt32
  nanos : UInt32
  /-- A captured length to claim in place of the true one. -/
  snapLength? : Option UInt32
  /-- A distance to the next record to claim in place of the true one. -/
  nextOffset? : Option UInt32
  deriving DecidableEq, Repr

namespace Draft

def payloadOffset : Nat := recordHeaderLength + 16

/-- A record that claims nothing false. -/
def packet (payload : Bytes) (seconds nanos : UInt32) : Draft :=
  { payload, seconds, nanos, snapLength? := none, nextOffset? := none }

/-- Octets from the beginning of a record to the beginning of the next one. -/
def stride (d : Draft) : Nat := (payloadOffset + d.payload.length + 15) / 16 * 16

def header (d : Draft) (last : Bool) : RecordHeader :=
  let length := UInt32.ofNat d.payload.length
  { nextOffset := d.nextOffset?.getD (if last then 0 else UInt32.ofNat d.stride)
    seconds := d.seconds
    nanos := d.nanos
    snapLength := d.snapLength?.getD length
    wireLength := length
    status := userBit
    macOffset := UInt16.ofNat payloadOffset
    netOffset := UInt16.ofNat (payloadOffset + 14) }

def writes (d : Draft) (start : Nat) (last : Bool) : List (Nat × Bytes) :=
  (d.header last).writes start ++ [(start + payloadOffset, d.payload)]

end Draft

/-! ## Blocks -/

/-- What is written for records that lie one behind the other, the first one at `offset`. -/
def recordWrites (base : Nat) : (offset : Nat) → List Draft → List (Nat × Bytes)
  | _, [] => []
  | offset, d :: drafts =>
    d.writes (base + offset) drafts.isEmpty ++ recordWrites base (offset + d.stride) drafts

/-- Where such records end, gaps included. -/
def usedLength : (offset : Nat) → List Draft → Nat
  | offset, [] => offset
  | offset, d :: drafts => usedLength (offset + d.stride) drafts

/-- What is written for a descriptor, but for the status word. -/
def descriptorWrites (base count used : Nat) : List (Nat × Bytes) :=
  [(base, Bytes.ofNatLE 4 1),
    (base + 4, Bytes.ofNatLE 4 0),
    (base + 12, Bytes.ofNatLE 4 count),
    (base + 16, Bytes.ofNatLE 4 blockHeaderLength),
    (base + 20, Bytes.ofNatLE 4 used)]

/-- Fill the block with the given index and hand it over. -/
def fill (region : Region) (blockSize index : Nat) (drafts : List Draft) : Option Region := do
  let base := index * blockSize
  let used := usedLength blockHeaderLength drafts
  let region ← region.writeEach?
    (recordWrites base blockHeaderLength drafts ++ descriptorWrites base drafts.length used)
  region.storeStatus (base + statusOffset) userBit

end Ring

end LinkTap
