/-
Walking the records of one block.

The content of a block is untrusted. The walk starts where the descriptor says and visits at most as
many records as it declares. Before a record is handed on, its header must lie inside the block
behind the descriptor, its length must be in range, and its octets must lie behind its header and
inside the block. The walk ends at the declared count or at a record that marks itself the last one;
it is cut short by the first record that breaks a rule. Records before that one stand.
-/
import LinkTap.Ring.Layout
import LinkTap.Ring.Region

set_option autoImplicit false

namespace LinkTap.Ring

/-- The octets of one packet and the time of their capture. -/
structure Record where
  payload : Bytes
  time : Timestamp
  deriving DecidableEq, Repr

/-- The rule that a record breaks. -/
inductive RecordFault where
  | blockHeaderOutside
  | headerOutside
  | payloadOutside
  | doesNotFit (offset blockSize : Nat)
  | snapLength (length offset : Nat)
  | macOverlap (mac : Nat)
  | payloadRunsPast (length start : Nat)
  | shortNext (next : Nat)
  deriving DecidableEq, Repr

/-- The reason in words. -/
def RecordFault.message : RecordFault → String
  | blockHeaderOutside => "block header outside ring region"
  | headerOutside => "record header outside ring region"
  | payloadOutside => "payload outside ring region"
  | doesNotFit offset size => s!"record at offset {offset} does not fit in a {size} byte block"
  | snapLength length offset => s!"snap length {length} at offset {offset} out of range"
  | macOverlap mac => s!"link-layer offset {mac} overlaps the record header"
  | payloadRunsPast length start =>
    s!"payload of {length} bytes at offset {start} runs past the block"
  | shortNext next => s!"next record offset {next} shorter than a record header"

/-- The records handed on by a walk, and the fault that cut it short, if any. -/
structure Walk where
  records : List Record
  fault : Option RecordFault
  deriving DecidableEq, Repr

/-- The block of `size` octets at address `start` of a region. -/
structure Block where
  region : Region
  start : Nat
  size : Nat

namespace Block

/-- The descriptor of the block. -/
def header? (b : Block) : Option BlockHeader :=
  (b.region.read b.start blockHeaderLength).map BlockHeader.ofBytes

/-- The rule that the header of the record at `offset` breaks, if it breaks one. -/
def headerFault? (b : Block) (offset : Nat) (h : RecordHeader) : Option RecordFault :=
  let length := h.snapLength.toNat
  let mac := h.macOffset.toNat
  if length = 0 ∨ maxSnapLength < length then some (.snapLength length offset)
  else if mac < recordHeaderLength then some (.macOverlap mac)
  else if b.size < offset + mac + length then some (.payloadRunsPast length (offset + mac))
  else none

/-- The record at `offset` and the distance to the one behind it. -/
def recordAt (b : Block) (offset : Nat) : Except RecordFault (Record × Nat) :=
  if offset < blockHeaderLength ∨ b.size < offset + recordHeaderLength then
    .error (.doesNotFit offset b.size)
  else
    match b.region.read (b.start + offset) recordHeaderLength with
    | none => .error .headerOutside
    | some raw =>
      let h := RecordHeader.ofBytes raw
      match b.headerFault? offset h with
      | some fault => .error fault
      | none =>
        match b.region.read (b.start + (offset + h.macOffset.toNat)) h.snapLength.toNat with
        | none => .error .payloadOutside
        | some payload => .ok (⟨payload, h.time⟩, h.nextOffset.toNat)

/-- Visit at most `count` records, the first one at `offset`. -/
def walkFrom (b : Block) : Nat → Nat → Walk
  | 0, _ => ⟨[], none⟩
  | count + 1, offset =>
    match b.recordAt offset with
    | .error fault => ⟨[], some fault⟩
    | .ok (record, next) =>
      if next = 0 then ⟨[record], none⟩
      else if next < recordHeaderLength then ⟨[record], some (.shortNext next)⟩
      else
        let rest := walkFrom b count (offset + next)
        ⟨record :: rest.records, rest.fault⟩

/-- Visit the records that the descriptor declares. -/
def walk (b : Block) : Walk :=
  match b.header? with
  | none => ⟨[], some .blockHeaderOutside⟩
  | some h => b.walkFrom h.packetCount.toNat h.firstOffset.toNat

end Block

end LinkTap.Ring
