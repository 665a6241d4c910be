/-
Words in byte strings.

A word of `n` octets is a number below `256 ^ n`. Two orders occur: network headers put the most
significant octet first, ring memory and socket options put it last. Reading is defined on byte
strings of any length, so a field of a header is read by cutting it out and taking its value.
-/
set_option autoImplicit false

namespace LinkTap

/-- Octets in the order in which they lie in memory or arrive on the wire. -/
abbrev Bytes := List UInt8

namespace Bytes

/-- The `width` octets that begin at `start`. -/
def field (bs : Bytes) (start width : Nat) : Bytes := (bs.drop start).take width

/-! ## Reading -/

/-- The value of a word whose first octet weighs least. -/
def littleEndian : Bytes → Nat
  | [] => 0
  | b :: rest => b.toNat + 256 * littleEndian rest

/-- The value of a word whose first octet weighs most. -/
def bigEndian (bs : Bytes) : Nat := littleEndian bs.reverse

/-- The octet at `start`, zero past the end. -/
def octet (bs : Bytes) (start : Nat) : UInt8 := bs.getD start 0

/-- The 16-bit word at `start`, most significant octet first. -/
def be16 (bs : Bytes) (start : Nat) : UInt16 := UInt16.ofNat (bigEndian (field bs start 2))

/-- The 32-bit word at `start`, most significant octet first. -/
def be32 (bs : Bytes) (start : Nat) : UInt32 := UInt32.ofNat (bigEndian (field bs start 4))

/-- The 16-bit word at `start`, least significant octet first. -/
def le16 (bs : Bytes) (start : Nat) : UInt16 := UInt16.ofNat (littleEndian (field bs start 2))

/-- The 32-bit word at `start`, least significant octet first. -/
def le32 (bs : Bytes) (start : Nat) : UInt32 := UInt32.ofNat (littleEndian (field bs start 4))

/-- The 64-bit word at `start`, least significant octet first. -/
def le64 (bs : Bytes) (start : Nat) : UInt64 := UInt64.ofNat (littleEndian (field bs start 8))

/-! ## Writing -/

/-- The lowest `width` octets of `n`, least significant first. -/
def ofNatLE : Nat → Nat → Bytes
  | 0, _ => []
  | width + 1, n => UInt8.ofNat n :: ofNatLE width (n / 256)

/-- The lowest `width` octets of `n`, most significant first. -/
def ofNatBE (width n : Nat) : Bytes := (ofNatLE width n).reverse

/-- The sum of the octets. -/
def total (bs : Bytes) : Nat := bs.foldl (fun acc b => acc + b.toNat) 0

end Bytes

end LinkTap
