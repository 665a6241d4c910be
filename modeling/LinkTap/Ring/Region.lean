/-
Byte memory that a producer and a consumer share.

A region has a length and a content. Every access names a span and is refused unless the span lies
inside the region, so no access reads or changes anything else. Status words are four octets at a
multiple of four, least significant first; they are the only part that both sides use to hand a
block over.

The content is a function from addresses to octets. Memory starts out zeroed at any length without
being materialised, and two contents are equal exactly when they agree at every address.
-/
import LinkTap.Bytes

set_option autoImplicit false

namespace LinkTap

/-- Addresses are 64-bit words. -/
def addressSpace : Nat := UInt64.size

/-- Byte memory of a fixed length. -/
structure Region where
  /-- Number of octets. -/
  size : Nat
  /-- The octet at each address; only addresses below `size` belong to the region. -/
  byte : Nat → UInt8

namespace Region

/-- Memory of the given length with every octet zero. -/
def zeroed (size : Nat) : Region := ⟨size, fun _ => 0⟩

/-- Whether the span of `length` octets at `offset` lies inside, without wrapping around. -/
def Holds (r : Region) (offset length : Nat) : Prop :=
  offset + length < addressSpace ∧ offset + length ≤ r.size

instance (r : Region) (offset length : Nat) : Decidable (r.Holds offset length) :=
  inferInstanceAs (Decidable (_ ∧ _))

/-- Whether a status word may lie at `offset`. -/
def HoldsStatus (r : Region) (offset : Nat) : Prop := offset % 4 = 0 ∧ r.Holds offset 4

instance (r : Region) (offset : Nat) : Decidable (r.HoldsStatus offset) :=
  inferInstanceAs (Decidable (_ ∧ _))

/-! ## Reading -/

/-- The octets of a span, wherever it lies. -/
def span (r : Region) (offset length : Nat) : Bytes :=
  (List.range length).map fun i => r.byte (offset + i)

/-- The octets of a span inside the region. -/
def read (r : Region) (offset length : Nat) : Option Bytes :=
  if r.Holds offset length then some (r.span offset length) else none

/-- The status word at `offset`. -/
def loadStatus (r : Region) (offset : Nat) : Option UInt32 :=
  if r.HoldsStatus offset then some (Bytes.le32 (r.span offset 4) 0) else none

/-! ## Writing -/

/-- A content with `data` laid over it from `offset` on. -/
def overlay (byte : Nat → UInt8) (offset : Nat) (data : Array UInt8) (address : Nat) : UInt8 :=
  if offset ≤ address then (data[address - offset]?).getD (byte address) else byte address

/-- Replace the octets of a span. -/
def write (r : Region) (offset : Nat) (data : Bytes) : Option Region :=
  if r.Holds offset data.length then
    some { r with byte := overlay r.byte offset data.toArray }
  else none

/-- Replace the status word at `offset`. -/
def storeStatus (r : Region) (offset : Nat) (value : UInt32) : Option Region :=
  if r.HoldsStatus offset then
    some { r with byte := overlay r.byte offset (Bytes.ofNatLE 4 value.toNat).toArray }
  else none

/-- Apply writes in order; one that does not fit is left out. -/
def writeAll (r : Region) (writes : List (Nat × Bytes)) : Region :=
  writes.foldl (fun r w => (r.write w.1 w.2).getD r) r

end Region

end LinkTap
