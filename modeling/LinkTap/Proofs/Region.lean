/-
Memory seen through its spans.

A content is a function from addresses to octets, so a span is determined by what it holds at each
address and a write is determined by where it lies. Everything the ring needs of memory comes down
to two facts: an overlay changes nothing outside its span, and the status word of a block hands the
block over with the lowest bit of its first octet. The second one lets ownership be read from one
octet.
-/
import LinkTap.Proofs.Bytes
import LinkTap.Ring.Layout
import LinkTap.Ring.Region

set_option autoImplicit false

namespace LinkTap.Region

/-! ## Spans -/

@[simp] theorem length_span (r : Region) (offset length : Nat) :
    (r.span offset length).length = length := by
  simp [span]

/-- Two spans of one length are equal exactly when they agree octet by octet. -/
theorem span_eq_span_iff {r r' : Region} {offset offset' length : Nat} :
    r.span offset length = r'.span offset' length
      ↔ ∀ i < length, r.byte (offset + i) = r'.byte (offset' + i) := by
  simp only [span]
  constructor
  · intro h i hi
    exact List.map_inj_left.mp h i (List.mem_range.mpr hi)
  · intro h
    exact List.map_inj_left.mpr fun i hi => h i (List.mem_range.mp hi)

/-- A read succeeds on the spans inside the region and gives what is there. -/
theorem read_of_holds {r : Region} {offset length : Nat} (h : r.Holds offset length) :
    r.read offset length = some (r.span offset length) :=
  if_pos h

/-! ## Writes -/

/-- An overlay leaves every address outside its span alone. -/
theorem overlay_of_outside (byte : Nat → UInt8) {offset address : Nat} {data : Array UInt8}
    (h : address < offset ∨ offset + data.size ≤ address) :
    overlay byte offset data address = byte address := by
  unfold overlay
  split
  · rw [Array.getElem?_eq_none (by omega)]
    rfl
  · rfl

/-- An overlay shows its data inside its span. -/
theorem overlay_of_inside (byte : Nat → UInt8) {offset i : Nat} {data : Array UInt8}
    (h : i < data.size) : overlay byte offset data (offset + i) = data[i] := by
  unfold overlay
  rw [if_pos (Nat.le_add_right _ _), Nat.add_sub_cancel_left, Array.getElem?_eq_getElem h]
  rfl

/-- What was laid over is found where it was laid. -/
theorem span_overlay (r : Region) (offset : Nat) (data : Bytes) :
    ({ r with byte := overlay r.byte offset data.toArray } : Region).span offset data.length
      = data := by
  apply List.ext_getElem
  · simp
  · intro i hi hi'
    have hsize : i < data.toArray.size := by simpa using hi'
    simp [span, overlay_of_inside r.byte hsize]

/-- What a successful write leaves behind. -/
theorem eq_of_write {r r' : Region} {offset : Nat} {data : Bytes}
    (h : r.write offset data = some r') :
    r' = { r with byte := overlay r.byte offset data.toArray } := by
  unfold write at h
  split at h
  · exact (Option.some.inj h).symm
  · cases h

/-! ## Status words -/

/-- A word in memory is made of four octets, the least significant one first. -/
theorem toNat_le32_span (r : Region) (offset : Nat) :
    (Bytes.le32 (r.span offset 4) 0).toNat
      = (r.byte offset).toNat + 256 * (r.byte (offset + 1)).toNat
        + 65536 * (r.byte (offset + 2)).toNat + 16777216 * (r.byte (offset + 3)).toNat := by
  have hfield : Bytes.field (r.span offset 4) 0 4
      = [r.byte offset, r.byte (offset + 1), r.byte (offset + 2), r.byte (offset + 3)] := rfl
  rw [Bytes.toNat_le32, hfield]
  simp only [Bytes.littleEndian]
  omega

/-- The lowest bit of a word that is stored least octet first is the lowest bit of its first octet.
-/
theorem isUserOwned_le32 (r : Region) (offset : Nat) :
    Ring.isUserOwned (Bytes.le32 (r.span offset 4) 0) = ((r.byte offset).toNat % 2 == 1) := by
  rw [Ring.isUserOwned, toNat_le32_span, Nat.testBit_zero, Bool.eq_iff_iff, decide_eq_true_iff,
    beq_iff_eq]
  omega

/-- A status word is readable where it is aligned and inside. -/
theorem loadStatus_of_holds {r : Region} {offset : Nat} (h : r.HoldsStatus offset) :
    r.loadStatus offset = some (Bytes.le32 (r.span offset 4) 0) :=
  if_pos h

/-- A status word is written where it is aligned and inside. -/
theorem storeStatus_of_holds {r : Region} {offset : Nat} {value : UInt32}
    (h : r.HoldsStatus offset) :
    r.storeStatus offset value
      = some { r with byte := overlay r.byte offset (Bytes.ofNatLE 4 value.toNat).toArray } :=
  if_pos h

end LinkTap.Region
