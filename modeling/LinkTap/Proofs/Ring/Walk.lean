/-
A walk sees the octets of its block and nothing else.

The walk reads memory through checked accesses, so in general its outcome depends on where the
region ends. For a block that lies inside its region every access succeeds, and the walk is a
function of the octets of the block alone: the same octets, standing by themselves, give the same
records and the same fault. This is what lets a hand-over be stated as "the bytes that were filled
in are the bytes that are walked". Whatever a walk hands on has at least one octet and at most the
longest snap length.
-/
import LinkTap.Proofs.Region
import LinkTap.Ring.Block

set_option autoImplicit false

namespace LinkTap.Ring.Block

/-! ## Blocks inside their region -/

/-- The block lies inside its region and has room for a descriptor. -/
structure Inside (b : Block) : Prop where
  holds : b.region.Holds b.start b.size
  descriptor : blockHeaderLength ≤ b.size

/-- The octets of a part of the block. -/
def octets (b : Block) (offset length : Nat) : Bytes := b.region.span (b.start + offset) length

/-- All octets of the block. -/
def content (b : Block) : Bytes := b.octets 0 b.size

theorem Inside.read {b : Block} (hb : b.Inside) {offset length : Nat}
    (h : offset + length ≤ b.size) :
    b.region.read (b.start + offset) length = some (b.octets offset length) := by
  obtain ⟨hspace, hsize⟩ := hb.holds
  exact Region.read_of_holds ⟨by omega, by omega⟩

theorem Inside.header? {b : Block} (hb : b.Inside) :
    b.header? = some (BlockHeader.ofBytes (b.octets 0 blockHeaderLength)) := by
  have h : b.region.read (b.start + 0) blockHeaderLength = some (b.octets 0 blockHeaderLength) :=
    hb.read (by simpa using hb.descriptor)
  rw [Nat.add_zero] at h
  rw [Block.header?, h]
  rfl

/-! ## Single records -/

/-- A record header breaks no rule exactly when length, position and extent are all in range. -/
theorem headerFault?_eq_none_iff {b : Block} {offset : Nat} {h : RecordHeader} :
    b.headerFault? offset h = none
      ↔ 0 < h.snapLength.toNat ∧ h.snapLength.toNat ≤ maxSnapLength
        ∧ recordHeaderLength ≤ h.macOffset.toNat
        ∧ offset + h.macOffset.toNat + h.snapLength.toNat ≤ b.size := by
  unfold headerFault?
  constructor
  · intro hf
    dsimp only at hf
    split at hf
    · cases hf
    split at hf
    · cases hf
    split at hf
    · cases hf
    omega
  · rintro ⟨hpos, hmax, hmac, hend⟩
    dsimp only
    rw [if_neg (by omega), if_neg (by omega), if_neg (by omega)]

/-- The rules look at the size of the block and not at where it lies. -/
theorem headerFault?_congr {b b' : Block} (h : b.size = b'.size) (offset : Nat) (r : RecordHeader) :
    b.headerFault? offset r = b'.headerFault? offset r := by
  simp only [headerFault?, h]

/-- A record inside its region is accepted or refused by the rules alone. -/
theorem Inside.recordAt {b : Block} (hb : b.Inside) (offset : Nat) :
    b.recordAt offset =
      if offset < blockHeaderLength ∨ b.size < offset + recordHeaderLength then
        .error (.doesNotFit offset b.size)
      else
        let h := RecordHeader.ofBytes (b.octets offset recordHeaderLength)
        match b.headerFault? offset h with
        | some fault => .error fault
        | none =>
          .ok (⟨b.octets (offset + h.macOffset.toNat) h.snapLength.toNat, h.time⟩,
            h.nextOffset.toNat) := by
  rw [Block.recordAt]
  split
  · rfl
  · rename_i hfits
    rw [hb.read (by omega)]
    dsimp only
    generalize RecordHeader.ofBytes (b.octets offset recordHeaderLength) = h
    cases hfault : b.headerFault? offset h with
    | some fault => rfl
    | none =>
      obtain ⟨-, -, -, hend⟩ := headerFault?_eq_none_iff.mp hfault
      rw [hb.read (by omega)]

/-- What an accepted record went through: it lies behind the descriptor, its header is inside the
block and breaks no rule, and it holds as many octets as its header says. -/
theorem checks_of_recordAt {b : Block} {offset next : Nat} {r : Record}
    (h : b.recordAt offset = .ok (r, next)) :
    ∃ header : RecordHeader, blockHeaderLength ≤ offset ∧ offset + recordHeaderLength ≤ b.size
      ∧ b.headerFault? offset header = none ∧ r.payload.length = header.snapLength.toNat := by
  rw [Block.recordAt] at h
  split at h
  · cases h
  rename_i hfits
  split at h
  · cases h
  dsimp only at h
  split at h
  · cases h
  rename_i hnone
  split at h
  · cases h
  rename_i payload hread
  obtain ⟨rfl, -⟩ := Prod.mk.inj (Except.ok.inj h)
  refine ⟨_, by omega, by omega, hnone, ?_⟩
  unfold Region.read at hread
  split at hread
  · rw [← Option.some.inj hread, Region.length_span]
  · cases hread

/-- An accepted record has at least one octet and no more than the longest snap length. -/
theorem payload_bounds_of_recordAt {b : Block} {offset next : Nat} {r : Record}
    (h : b.recordAt offset = .ok (r, next)) :
    0 < r.payload.length ∧ r.payload.length ≤ maxSnapLength := by
  obtain ⟨header, -, -, hnone, hlength⟩ := checks_of_recordAt h
  obtain ⟨hpos, hmax, -, -⟩ := headerFault?_eq_none_iff.mp hnone
  rw [hlength]
  exact ⟨hpos, hmax⟩

/-- Behind the beginning of an accepted record there is room for a header and for one octet more. -/
theorem room_of_recordAt {b : Block} {offset next : Nat} {r : Record}
    (h : b.recordAt offset = .ok (r, next)) :
    blockHeaderLength ≤ offset ∧ offset + recordHeaderLength < b.size := by
  obtain ⟨header, hfront, -, hnone, -⟩ := checks_of_recordAt h
  obtain ⟨hpos, -, hmac, hend⟩ := headerFault?_eq_none_iff.mp hnone
  exact ⟨hfront, by omega⟩

/-! ## Whole walks -/

/-- Every record of a walk has at least one octet and no more than the longest snap length. -/
theorem payload_bounds_of_mem_walkFrom {b : Block} {count offset : Nat} {r : Record}
    (h : r ∈ (b.walkFrom count offset).records) :
    0 < r.payload.length ∧ r.payload.length ≤ maxSnapLength := by
  induction count generalizing offset with
  | zero => simp [walkFrom] at h
  | succ count ih =>
    rw [walkFrom] at h
    split at h
    · simp at h
    · rename_i record next hrecord
      have hbounds := payload_bounds_of_recordAt hrecord
      split at h
      · rw [List.mem_singleton.mp h]
        exact hbounds
      split at h
      · rw [List.mem_singleton.mp h]
        exact hbounds
      · rcases List.mem_cons.mp h with rfl | hrest
        · exact hbounds
        · exact ih hrest

theorem payload_bounds_of_mem_walk {b : Block} {r : Record} (h : r ∈ b.walk.records) :
    0 < r.payload.length ∧ r.payload.length ≤ maxSnapLength := by
  unfold walk at h
  split at h
  · simp at h
  · exact payload_bounds_of_mem_walkFrom h

/-! ## Walks and contents -/

/-- A block that stands by itself, with the given octets. -/
def ofContent (bs : Bytes) : Block := ⟨⟨bs.length, fun i => bs.getD i 0⟩, 0, bs.length⟩

/-- Two blocks show the same octets. -/
structure SameContent (b b' : Block) : Prop where
  size : b.size = b'.size
  byte : ∀ i < b.size, b.region.byte (b.start + i) = b'.region.byte (b'.start + i)

theorem SameContent.octets {b b' : Block} (h : SameContent b b') {offset length : Nat}
    (hin : offset + length ≤ b.size) : b.octets offset length = b'.octets offset length := by
  refine Region.span_eq_span_iff.mpr fun i hi => ?_
  rw [Nat.add_assoc, Nat.add_assoc]
  exact h.byte (offset + i) (by omega)

theorem SameContent.content {b b' : Block} (h : SameContent b b') : b.content = b'.content := by
  rw [Block.content, h.octets (by omega), h.size, Block.content]

theorem SameContent.recordAt {b b' : Block} (h : SameContent b b') (hb : b.Inside) (hb' : b'.Inside)
    (offset : Nat) : b.recordAt offset = b'.recordAt offset := by
  rw [hb.recordAt, hb'.recordAt, ← h.size]
  split
  · rfl
  · rename_i hfits
    rw [← h.octets (by omega)]
    dsimp only
    rw [headerFault?_congr h.size]
    split
    · rfl
    · rename_i hnone
      obtain ⟨-, -, -, hend⟩ := headerFault?_eq_none_iff.mp hnone
      rw [h.octets (by rw [h.size]; omega)]

theorem SameContent.walkFrom {b b' : Block} (h : SameContent b b') (hb : b.Inside) (hb' : b'.Inside)
    (count offset : Nat) : b.walkFrom count offset = b'.walkFrom count offset := by
  induction count generalizing offset with
  | zero => rfl
  | succ count ih => simp only [Block.walkFrom, h.recordAt hb hb', ih]

theorem SameContent.walk {b b' : Block} (h : SameContent b b') (hb : b.Inside) (hb' : b'.Inside) :
    b.walk = b'.walk := by
  have hdescriptor : b.octets 0 blockHeaderLength = b'.octets 0 blockHeaderLength :=
    h.octets (by simpa using hb.descriptor)
  simp only [Block.walk, hb.header?, hb'.header?, hdescriptor, h.walkFrom hb hb']

/-- **Locality.** The walk of a block is the walk of its octets, standing by themselves. -/
theorem Inside.walk_eq {b : Block} (hb : b.Inside) : b.walk = (ofContent b.content).walk := by
  have hlength : b.content.length = b.size := by rw [Block.content, octets, Region.length_span]
  have hsame : SameContent b (ofContent b.content) := by
    refine ⟨hlength.symm, fun i hi => ?_⟩
    have hget : b.content[i]? = some (b.region.byte (b.start + i)) := by
      simp [Block.content, octets, Region.span, hi]
    simp only [ofContent, Nat.zero_add, List.getD_eq_getElem?_getD, hget, Option.getD_some]
  refine hsame.walk hb ⟨⟨?_, ?_⟩, ?_⟩
  · have := hb.holds.1
    simp only [ofContent, hlength]
    omega
  · simp [ofContent]
  · simpa only [ofContent, hlength] using hb.descriptor

end LinkTap.Ring.Block
