/-
A ring under any use.

The memory of a ring is not the consumer's alone. Whoever fills the blocks writes where and when it
likes, and the ring may be released between two looks, so a run is a list of writes, looks and
releases in any order. No event takes a created ring out of its shape, so the equations for a look
hold in every state of every run: a look changes the status word of one block and the cursor, or
nothing at all.
-/
import LinkTap.Proofs.Ring.Process

set_option autoImplicit false

namespace LinkTap.Ring

/-- What can happen to a ring. -/
inductive Event where
  /-- Someone writes into the shared memory. A write that does not fit is refused. -/
  | write (offset : Nat) (data : Bytes)
  /-- Someone stores a status word. -/
  | setStatus (offset : Nat) (value : UInt32)
  /-- The consumer looks at the block at the cursor. -/
  | process
  /-- The ring is released. -/
  | close
  deriving DecidableEq, Repr

/-- The ring after one event. -/
def step (r : Ring) : Event → Ring
  | .write offset data => { r with region := (r.region.write offset data).getD r.region }
  | .setStatus offset value =>
    { r with region := (r.region.storeStatus offset value).getD r.region }
  | .process => r.process.ring
  | .close => r.close

/-- The ring after a list of events. -/
def run (r : Ring) (events : List Event) : Ring := events.foldl step r

variable {r : Ring}

/-! ## What every event keeps -/

/-- A write changes octets and not the length of the memory. -/
theorem size_write (region : Region) (offset : Nat) (data : Bytes) :
    ((region.write offset data).getD region).size = region.size := by
  cases hwrite : region.write offset data with
  | none => rfl
  | some written => rw [Option.getD_some, Region.eq_of_write hwrite]

theorem size_storeStatus (region : Region) (offset : Nat) (value : UInt32) :
    ((region.storeStatus offset value).getD region).size = region.size := by
  unfold Region.storeStatus
  split <;> rfl

theorem step_geometry (r : Ring) (event : Event) :
    (r.step event).blockSize = r.blockSize ∧ (r.step event).blockCount = r.blockCount := by
  cases event with
  | write offset data => exact ⟨rfl, rfl⟩
  | setStatus offset value => exact ⟨rfl, rfl⟩
  | process => exact process_geometry r
  | close => exact ⟨rfl, rfl⟩

theorem run_geometry (r : Ring) (events : List Event) :
    (r.run events).blockSize = r.blockSize ∧ (r.run events).blockCount = r.blockCount := by
  induction events generalizing r with
  | nil => exact ⟨rfl, rfl⟩
  | cons event events ih =>
    obtain ⟨hsize, hcount⟩ := step_geometry r event
    obtain ⟨hsize', hcount'⟩ := ih (r.step event)
    exact ⟨hsize'.trans hsize, hcount'.trans hcount⟩

/-- A look leaves the cursor on a block, whichever case it meets. -/
theorem WellFormed.process (hw : r.WellFormed) : r.process.ring.WellFormed := by
  rcases hw.process_cases with ⟨-, hlook⟩ | ⟨-, -, hlook⟩ | ⟨-, -, hlook⟩
  all_goals rw [hlook]
  · exact hw
  · exact hw
  · exact hw.released

theorem WellFormed.step (hw : r.WellFormed) (event : Event) : (r.step event).WellFormed := by
  cases event with
  | write offset data =>
    refine ⟨hw.page, hw.size_pos, hw.space, ?_, hw.cursor_lt⟩
    exact Nat.le_trans hw.room (Nat.le_of_eq (size_write r.region offset data).symm)
  | setStatus offset value =>
    refine ⟨hw.page, hw.size_pos, hw.space, ?_, hw.cursor_lt⟩
    exact Nat.le_trans hw.room (Nat.le_of_eq (size_storeStatus r.region offset value).symm)
  | process => exact hw.process
  | close => exact ⟨hw.page, hw.size_pos, hw.space, hw.room, hw.cursor_lt⟩

theorem WellFormed.run (hw : r.WellFormed) (events : List Event) : (r.run events).WellFormed := by
  induction events generalizing r with
  | nil => exact hw
  | cons event events ih => exact ih (hw.step event)

/-- Every state of a created ring is well formed and has the shape it was created with. -/
theorem run_of_create {region : Region} {blockSize blockCount : Nat} {ring : Ring}
    (hring : create region blockSize blockCount = .ok ring) (events : List Event) :
    (ring.run events).WellFormed ∧ (ring.run events).blockSize = blockSize
      ∧ (ring.run events).blockCount = blockCount := by
  obtain ⟨rfl, hw⟩ := create_eq_ok hring
  obtain ⟨hsize, hcount⟩ := run_geometry _ events
  exact ⟨hw.run events, hsize, hcount⟩

/-! ## Released rings -/

/-- No look releases a ring or takes a release back. -/
theorem process_closed (r : Ring) : r.process.ring.closed = r.closed := by
  unfold process
  split
  · rfl
  split
  · rfl
  split
  · unfold consume release
    dsimp only
    cases r.region.storeStatus (r.statusAddress r.cursor) kernelOwned with
    | none => rfl
    | some region => cases (r.block r.cursor).walk.fault <;> rfl
  · rfl

theorem closed_step (h : r.closed = true) (event : Event) : (r.step event).closed = true := by
  cases event with
  | write offset data => exact h
  | setStatus offset value => exact h
  | process => exact (process_closed r).trans h
  | close => rfl

/-- Nothing opens a released ring again. -/
theorem closed_run (h : r.closed = true) (events : List Event) : (r.run events).closed = true := by
  induction events generalizing r with
  | nil => exact h
  | cons event events ih => exact ih (closed_step h event)

/-! ## Giving back -/

/-- A block is given back by zeros in the four octets of its status word. -/
theorem released_byte (r : Ring) (address : Nat) :
    r.released.region.byte address =
      if r.statusAddress r.cursor ≤ address ∧ address < r.statusAddress r.cursor + 4 then 0
      else r.region.byte address := by
  split
  · rename_i hin
    obtain ⟨i, rfl⟩ := Nat.exists_eq_add_of_le hin.1
    have hi : i < 4 := by omega
    have hzero : ∀ i, (h : i < 4) → (#[0, 0, 0, 0] : Array UInt8)[i] = 0 := by decide
    exact (Region.overlay_of_inside r.region.byte hi).trans (hzero i hi)
  · exact released_byte_of_outside (by omega)

/-- What a look at a block of the consumer is reported as: a count, or a malformed record. -/
theorem Walk.outcome_cases (w : Walk) :
    w.outcome = .ok (some w.records.length)
      ∨ ∃ reason, w.outcome = .error (.ringRecord reason) := by
  unfold Walk.outcome
  split
  · exact .inr ⟨_, rfl⟩
  · exact .inl rfl

/-- **A look gives back the block that it walked, and does nothing else.** In every state of a ring
that was created over any memory and used in any way: if the consumer owns the block at the cursor,
a look zeroes the four octets of its status word and moves the cursor to the next block, whether the
walk counted its records or found one malformed, and every other octet stays; if the producer owns
the block or the ring was released, a look hands nothing on and changes nothing. A released ring
stays released, and the cursor is always on a block. -/
theorem process_gives_back {region : Region} {blockSize blockCount : Nat} {ring : Ring}
    (hring : create region blockSize blockCount = .ok ring) (events : List Event) :
    let r := ring.run events
    r.blockSize = blockSize ∧ r.blockCount = blockCount ∧ r.cursor < blockCount
      ∧ (r.closed = false → r.ready r.cursor = true →
          r.process.ring =
              { r with
                region :=
                  { size := r.region.size
                    byte := fun address =>
                      if r.cursor * blockSize + 8 ≤ address ∧ address < r.cursor * blockSize + 12
                      then 0 else r.region.byte address }
                cursor := (r.cursor + 1) % blockCount }
            ∧ (r.process.result = .ok (some r.process.records.length)
                ∨ ∃ reason, r.process.result = .error (.ringRecord reason)))
      ∧ (r.closed = false → r.ready r.cursor = false → r.process = ⟨r, [], .ok none⟩)
      ∧ (r.closed = true → r.process = ⟨r, [], .error .ringClosed⟩
          ∧ ∀ later, (r.run later).closed = true) := by
  intro r
  obtain ⟨hw, hsize, hcount⟩ := run_of_create hring events
  change r.WellFormed at hw
  change r.blockSize = blockSize at hsize
  change r.blockCount = blockCount at hcount
  have hcursor := hw.cursor_lt
  refine ⟨hsize, hcount, hcount ▸ hcursor, fun hopen hready => ?_, hw.process_of_not_ready,
    fun hclosed => ⟨process_of_closed hclosed, closed_run hclosed⟩⟩
  -- How the walk went decides on the report, and the ring is the released one in any case.
  rw [hw.process_of_ready hopen hready]
  refine ⟨?_, (r.block r.cursor).walk.outcome_cases⟩
  have hbyte : r.released.region.byte = fun address =>
      if r.cursor * blockSize + 8 ≤ address ∧ address < r.cursor * blockSize + 12
      then 0 else r.region.byte address := by
    funext address
    rw [released_byte, statusAddress, statusOffset, hsize]
  rw [← hbyte, ← hcount]
  rfl

/-- A block whose only record is malformed, in a ring of two. -/
theorem process_gives_back_malformed :
    let ring : Ring := ⟨Region.zeroed 8192, 4096, 2, 0, false⟩
    let r := ring.run [.write 12 [1], .setStatus 8 1]
    create (Region.zeroed 8192) 4096 2 = .ok ring
      ∧ (r.closed = false ∧ r.ready r.cursor = true)
      ∧ r.process.ring.cursor = (r.cursor + 1) % 2
      ∧ r.process.ring.region.byte 8 = 0 ∧ r.process.ring.region.byte 12 = 1 := by
  intro ring r
  have hring : create (Region.zeroed 8192) 4096 2 = .ok ring := rfl
  have hopen : r.closed = false := rfl
  have hready : r.ready r.cursor = true := by decide +kernel
  obtain ⟨-, -, -, hback, -⟩ := process_gives_back hring [.write 12 [1], .setStatus 8 1]
  obtain ⟨hstate, -⟩ := hback hopen hready
  rw [hstate]
  exact ⟨hring, ⟨hopen, hready⟩, rfl, by decide +kernel, by decide +kernel⟩

end LinkTap.Ring
