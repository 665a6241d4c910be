/-
What one look at the ring does.

A ring that was created over enough memory keeps its shape for good, so every block lies inside the
region, every status word can be read and written, and blocks do not share addresses. Under these
facts `process` has three cases and no others: a released ring refuses, a block of the producer is
left alone, and a block of the consumer is walked, given back and passed, whether the walk met a
fault or not. The three equations below say all that later proofs need of `process`; none of them
opens it again.
-/
import LinkTap.Proofs.Ring.Geometry
import LinkTap.Proofs.Ring.Walk

set_option autoImplicit false

namespace LinkTap.Ring

/-! ## Shape -/

/-- A ring whose blocks lie inside its region, with the cursor on one of them. -/
structure WellFormed (r : Ring) : Prop where
  page : r.blockSize % pageSize = 0
  size_pos : 0 < r.blockSize
  space : r.blockSize * r.blockCount < addressSpace
  room : r.blockSize * r.blockCount ≤ r.region.size
  cursor_lt : r.cursor < r.blockCount

/-- What a created ring is: its arguments, an open ring, and the cursor on the first block. -/
theorem create_eq_ok {region : Region} {blockSize blockCount : Nat} {r : Ring}
    (h : create region blockSize blockCount = .ok r) :
    r = { region, blockSize, blockCount, cursor := 0, closed := false } ∧ r.WellFormed := by
  obtain ⟨hshape, hroom, rfl⟩ := create_eq_ok_iff.mp h
  exact ⟨rfl, Nat.mod_eq_zero_of_dvd hshape.whole, hshape.size_pos, hshape.space, hroom,
    hshape.count_pos⟩

variable {r : Ring} {i j address : Nat}

/-- Every block ends inside the ring. -/
theorem block_end_le (hi : i < r.blockCount) :
    i * r.blockSize + r.blockSize ≤ r.blockSize * r.blockCount := by
  have h := Nat.mul_le_mul_right r.blockSize (Nat.succ_le_of_lt hi)
  rw [Nat.succ_mul] at h
  rwa [Nat.mul_comm r.blockSize]

/-- A block has room for a page, hence for a descriptor. -/
theorem WellFormed.page_le (hw : r.WellFormed) : pageSize ≤ r.blockSize :=
  Nat.le_of_dvd hw.size_pos (Nat.dvd_of_mod_eq_zero hw.page)

theorem WellFormed.inside (hw : r.WellFormed) (hi : i < r.blockCount) : (r.block i).Inside := by
  have hend := block_end_le hi
  have hspace := hw.space
  have hroom := hw.room
  have hpage := hw.page_le
  refine ⟨⟨?_, ?_⟩, ?_⟩
  · simp only [block]
    omega
  · simp only [block]
    omega
  · simp only [block, blockHeaderLength]
    simp only [pageSize] at hpage
    omega

/-- Block sizes are multiples of four, so the status word of every block is aligned. -/
theorem WellFormed.holdsStatus (hw : r.WellFormed) (hi : i < r.blockCount) :
    r.region.HoldsStatus (r.statusAddress i) := by
  have hend := block_end_le hi
  have hspace := hw.space
  have hroom := hw.room
  have hpage := hw.page_le
  simp only [pageSize] at hpage
  have hfour : i * r.blockSize % 4 = 0 := by
    have hsize : r.blockSize % 4 = 0 := by
      have := hw.page
      simp only [pageSize] at this
      omega
    rw [Nat.mul_mod, hsize, Nat.mul_zero, Nat.zero_mod]
  refine ⟨?_, ?_, ?_⟩ <;> simp only [statusAddress, statusOffset] <;> omega

/-- The ring over a memory of other content. -/
def withBytes (r : Ring) (byte : Nat → UInt8) : Ring := { r with region := { r.region with byte } }

theorem WellFormed.withBytes (hw : r.WellFormed) (byte : Nat → UInt8) :
    (r.withBytes byte).WellFormed :=
  ⟨hw.page, hw.size_pos, hw.space, hw.room, hw.cursor_lt⟩

/-! ## Addresses of blocks -/

/-- The address belongs to the block with the given index. -/
def Covers (r : Ring) (i address : Nat) : Prop :=
  i * r.blockSize ≤ address ∧ address < i * r.blockSize + r.blockSize

/-- An address belongs to at most one block. -/
theorem Covers.unique (hi : r.Covers i address) (hj : r.Covers j address) : i = j := by
  have hdiv : ∀ k, r.Covers k address → address / r.blockSize = k := fun k hk =>
    Nat.div_eq_of_lt_le hk.1 (by rw [Nat.succ_mul]; exact hk.2)
  rw [← hdiv i hi, hdiv j hj]

/-- Numbers closer than one lap are told apart by their place in the ring. -/
theorem eq_of_mod_eq {n first k l : Nat} (hk : first ≤ k) (hk' : k < first + n) (hl : first ≤ l)
    (hl' : l < first + n) (h : k % n = l % n) : k = l := by
  rcases Nat.le_total k l with hle | hle
  · have hdvd := Nat.dvd_of_mod_eq_zero (Nat.sub_mod_eq_zero_of_mod_eq h.symm)
    have := Nat.eq_zero_of_dvd_of_lt hdvd (by omega)
    omega
  · have hdvd := Nat.dvd_of_mod_eq_zero (Nat.sub_mod_eq_zero_of_mod_eq h)
    have := Nat.eq_zero_of_dvd_of_lt hdvd (by omega)
    omega

/-- The four octets of a status word belong to its block. -/
theorem WellFormed.covers_status (hw : r.WellFormed) (h : r.statusAddress i ≤ address)
    (h' : address < r.statusAddress i + 4) : r.Covers i address := by
  have hpage := hw.page_le
  simp only [statusAddress, statusOffset, pageSize] at h h' hpage
  exact ⟨by omega, by omega⟩

/-! ## Ownership -/

/-- The consumer owns a block exactly when the first octet of its status word is odd. -/
theorem WellFormed.ready_eq (hw : r.WellFormed) (hi : i < r.blockCount) :
    r.ready i = ((r.region.byte (r.statusAddress i)).toNat % 2 == 1) := by
  rw [ready, Region.loadStatus_of_holds (hw.holdsStatus hi)]
  exact Region.isUserOwned_le32 r.region (r.statusAddress i)

/-- Ownership of a block is told by the octets of that block. -/
theorem WellFormed.ready_congr {r' : Ring} (hw : r.WellFormed) (hw' : r'.WellFormed)
    (hsize : r'.blockSize = r.blockSize) (hcount : r'.blockCount = r.blockCount)
    (hi : i < r.blockCount)
    (hbyte : ∀ a, r.Covers i a → r'.region.byte a = r.region.byte a) : r'.ready i = r.ready i := by
  rw [hw.ready_eq hi, hw'.ready_eq (by rw [hcount]; exact hi)]
  have hstatus : r'.statusAddress i = r.statusAddress i := by simp only [statusAddress, hsize]
  rw [hstatus, hbyte _ (hw.covers_status (Nat.le_refl _) (by omega))]

theorem content_congr {r' : Ring} (hsize : r'.blockSize = r.blockSize)
    (hbyte : ∀ a, r.Covers i a → r'.region.byte a = r.region.byte a) :
    (r'.block i).content = (r.block i).content := by
  refine (Block.SameContent.content ⟨hsize.symm, fun a ha => ?_⟩).symm
  simp only [block, hsize] at ha ⊢
  exact (hbyte _ ⟨by omega, by omega⟩).symm

/-- The ring after the block at the cursor was given back. -/
def released (r : Ring) : Ring :=
  { r with
    region :=
      { r.region with
        byte := Region.overlay r.region.byte (r.statusAddress r.cursor) #[0, 0, 0, 0] }
    cursor := (r.cursor + 1) % r.blockCount }

theorem WellFormed.release_eq (hw : r.WellFormed) : r.release = some r.released := by
  rw [release, Region.storeStatus_of_holds (hw.holdsStatus hw.cursor_lt)]
  rfl

theorem WellFormed.released (hw : r.WellFormed) : r.released.WellFormed :=
  ⟨hw.page, hw.size_pos, hw.space, hw.room,
    Nat.mod_lt _ (Nat.lt_of_le_of_lt (Nat.zero_le _) hw.cursor_lt)⟩

/-- Giving a block back changes nothing but its status word. -/
theorem released_byte_of_outside
    (h : address < r.statusAddress r.cursor ∨ r.statusAddress r.cursor + 4 ≤ address) :
    r.released.region.byte address = r.region.byte address :=
  Region.overlay_of_outside _ h

/-- Giving a block back changes no octet of another block. -/
theorem WellFormed.released_byte_of_covers (hw : r.WellFormed) (hi : i ≠ r.cursor)
    (h : r.Covers i address) : r.released.region.byte address = r.region.byte address := by
  by_cases hstatus : r.statusAddress r.cursor ≤ address ∧ address < r.statusAddress r.cursor + 4
  · exact absurd (h.unique (hw.covers_status hstatus.1 hstatus.2)) hi
  · exact released_byte_of_outside (by omega)

/-- A block that was given back is the producer's. -/
theorem WellFormed.ready_released_cursor (hw : r.WellFormed) :
    r.released.ready r.cursor = false := by
  rw [hw.released.ready_eq hw.cursor_lt]
  have hbyte : r.released.region.byte (r.statusAddress r.cursor + 0)
      = (#[0, 0, 0, 0] : Array UInt8)[0] := Region.overlay_of_inside r.region.byte (by decide)
  rw [Nat.add_zero] at hbyte
  rw [show r.released.statusAddress r.cursor = r.statusAddress r.cursor from rfl, hbyte]
  rfl

/-! ## The three cases -/

/-- What a walk is reported as. -/
def Walk.outcome (w : Walk) : Except Error (Option Nat) :=
  match w.fault with
  | some fault => .error (malformed fault)
  | none => .ok (some w.records.length)

theorem process_of_closed (h : r.closed = true) : r.process = ⟨r, [], .error .ringClosed⟩ := by
  rw [process, if_pos h]

theorem WellFormed.process_of_not_ready (hw : r.WellFormed) (hopen : r.closed = false)
    (h : r.ready r.cursor = false) : r.process = ⟨r, [], .ok none⟩ := by
  rw [ready, Region.loadStatus_of_holds (hw.holdsStatus hw.cursor_lt)] at h
  dsimp only at h
  rw [process, if_neg (by simp [hopen]), Region.loadStatus_of_holds (hw.holdsStatus hw.cursor_lt)]
  dsimp only
  rw [if_neg (by simp [h])]

/-- The block is walked, given back and passed whatever the walk reports. -/
theorem WellFormed.process_of_ready (hw : r.WellFormed) (hopen : r.closed = false)
    (h : r.ready r.cursor = true) :
    r.process = ⟨r.released, (r.block r.cursor).walk.records, (r.block r.cursor).walk.outcome⟩ := by
  rw [ready, Region.loadStatus_of_holds (hw.holdsStatus hw.cursor_lt)] at h
  dsimp only at h
  rw [process, if_neg (by simp [hopen]), Region.loadStatus_of_holds (hw.holdsStatus hw.cursor_lt)]
  dsimp only
  rw [if_pos h, consume, hw.release_eq]
  dsimp only
  cases hfault : (r.block r.cursor).walk.fault <;> simp only [Walk.outcome, hfault]

/-- A look is one of the three. -/
theorem WellFormed.process_cases (hw : r.WellFormed) :
    (r.closed = true ∧ r.process = ⟨r, [], .error .ringClosed⟩)
      ∨ (r.closed = false ∧ r.ready r.cursor = false ∧ r.process = ⟨r, [], .ok none⟩)
      ∨ (r.closed = false ∧ r.ready r.cursor = true
        ∧ r.process
          = ⟨r.released, (r.block r.cursor).walk.records, (r.block r.cursor).walk.outcome⟩) := by
  by_cases hclosed : r.closed = true
  · exact .inl ⟨hclosed, process_of_closed hclosed⟩
  have hopen : r.closed = false := Bool.eq_false_iff.mpr hclosed
  by_cases hready : r.ready r.cursor = true
  · exact .inr (.inr ⟨hopen, hready, hw.process_of_ready hopen hready⟩)
  · have hkernel : r.ready r.cursor = false := Bool.eq_false_iff.mpr hready
    exact .inr (.inl ⟨hopen, hkernel, hw.process_of_not_ready hopen hkernel⟩)

/-- A look ends in one of four ways; the only errors are a released ring and a malformed block. -/
theorem process_result_cases (r : Ring) :
    r.process.result = .ok none ∨ (∃ count, r.process.result = .ok (some count))
      ∨ r.process.result = .error .ringClosed
      ∨ ∃ fault, r.process.result = .error (malformed fault) := by
  unfold process
  split
  · exact .inr (.inr (.inl rfl))
  split
  · exact .inr (.inr (.inr ⟨_, rfl⟩))
  split
  · unfold consume
    dsimp only
    split
    · exact .inr (.inr (.inr ⟨_, rfl⟩))
    split
    · exact .inr (.inr (.inr ⟨_, rfl⟩))
    · exact .inr (.inl ⟨_, rfl⟩)
  · exact .inl rfl

/-- No look changes the shape of the ring, whatever state it is in. -/
theorem process_geometry (r : Ring) :
    r.process.ring.blockSize = r.blockSize ∧ r.process.ring.blockCount = r.blockCount := by
  unfold process
  split
  · exact ⟨rfl, rfl⟩
  split
  · exact ⟨rfl, rfl⟩
  split
  · unfold consume release
    dsimp only
    cases r.region.storeStatus (r.statusAddress r.cursor) kernelOwned with
    | none => exact ⟨rfl, rfl⟩
    | some region => cases (r.block r.cursor).walk.fault <;> exact ⟨rfl, rfl⟩
  · exact ⟨rfl, rfl⟩

/-- A look hands on nothing, or what the walk of the block at the cursor found, whatever state the
ring is in. -/
theorem process_records_cases (r : Ring) :
    r.process.records = [] ∨ r.process.records = (r.block r.cursor).walk.records := by
  unfold process
  split
  · exact .inl rfl
  split
  · exact .inl rfl
  split
  · right
    unfold consume
    dsimp only
    split
    · rfl
    · split <;> rfl
  · exact .inl rfl

/-- The ring hands on no record without octets. -/
theorem payload_pos_of_mem_process {record : Record} (h : record ∈ r.process.records) :
    0 < record.payload.length := by
  rcases r.process_records_cases with hnone | hwalk
  · rw [hnone] at h
    cases h
  · rw [hwalk] at h
    exact (Block.payload_bounds_of_mem_walk h).1

end LinkTap.Ring
