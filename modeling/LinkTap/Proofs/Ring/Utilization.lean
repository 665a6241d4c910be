/-
How much of a ring waits for its consumer.

The share of blocks that wait is a count of status words, one for each block. Nothing but a look
that consumes a block moves this count from the consumer's side, and such a look moves it by one:
giving a block back clears the user bit of its status word, and no status word but its own.

A handler of records is called in the middle of a look, when the block is being walked and not given
back yet. To see what it can see there, the look is written out once more with the handler in its
place: every call gets the ring as it is at that moment, and only behind the last call the block is
given back. This look answers as the other one does, and every call gets the ring as it was before
the look. So a handler that counts waiting blocks counts the one that is being walked among them.
-/
import Mathlib.Algebra.Order.Field.Basic
import Mathlib.Algebra.Order.Ring.Rat
import Mathlib.Data.Finset.Card
import Mathlib.Data.Finset.Range
import Mathlib.Data.Nat.Cast.Order.Ring
import LinkTap.Proofs.Ring.Run
import LinkTap.Statistics

set_option autoImplicit false

namespace LinkTap.Ring

variable {r : Ring} {i : Nat}

/-! ## Counting status words -/

/-- The status word of a block can be read and has the user bit set. -/
def HasUserBit (r : Ring) (i : Nat) : Prop :=
  ∃ status, r.region.loadStatus (i * r.blockSize + 8) = some status ∧ status.toNat % 2 = 1

theorem ready_iff : r.ready i = true ↔ r.HasUserBit i := by
  have hword : r.ready i = true
      ↔ ∃ status, r.region.loadStatus (r.statusAddress i) = some status
        ∧ isUserOwned status = true := by
    unfold ready
    cases r.region.loadStatus (r.statusAddress i) with
    | none => simp
    | some status => simp
  rw [hword]
  simp only [isUserOwned, Nat.testBit_zero, decide_eq_true_iff]
  rfl

instance (r : Ring) : DecidablePred r.HasUserBit := fun _ => decidable_of_iff _ ready_iff

/-- The blocks whose status word has the user bit set. -/
def userBlocks (r : Ring) : Finset Nat := (Finset.range r.blockCount).filter r.HasUserBit

theorem mem_userBlocks : i ∈ r.userBlocks ↔ i < r.blockCount ∧ r.ready i = true := by
  rw [userBlocks, Finset.mem_filter, Finset.mem_range, ready_iff]

theorem card_userBlocks_le (r : Ring) : r.userBlocks.card ≤ r.blockCount := by
  have hle := Finset.card_filter_le (Finset.range r.blockCount) r.HasUserBit
  rwa [Finset.card_range] at hle

theorem readyCount_of_open (hopen : r.closed = false) :
    r.readyCount = (List.range r.blockCount).countP r.ready := by
  rw [readyCount, hopen, if_neg Bool.false_ne_true]

theorem readyCount_eq_card (hopen : r.closed = false) : r.readyCount = r.userBlocks.card := by
  have hready : (fun i => decide (r.HasUserBit i)) = r.ready := by
    funext i
    rw [Bool.eq_iff_iff, decide_eq_true_iff, ready_iff]
  rw [readyCount_of_open hopen, List.countP_eq_length_filter, ← hready]
  rfl

theorem utilization_of_open (hopen : r.closed = false) :
    r.utilization = countToFloat r.readyCount / countToFloat r.blockCount := by
  rw [utilization, hopen, if_neg Bool.false_ne_true]
  rfl

/-- The share of waiting blocks is the number of status words with the user bit, over that of
blocks. -/
theorem utilization_eq (hopen : r.closed = false) :
    r.utilization = countToFloat r.userBlocks.card / countToFloat r.blockCount := by
  rw [utilization_of_open hopen, readyCount_eq_card hopen]

theorem utilization_of_closed (hclosed : r.closed = true) : r.utilization = 0 := by
  rw [utilization, if_pos hclosed]

/-- A block that the consumer owns counts. -/
theorem readyCount_bounds (hopen : r.closed = false) (hi : i < r.blockCount)
    (hready : r.ready i = true) : 1 ≤ r.readyCount ∧ r.readyCount ≤ r.blockCount := by
  rw [readyCount_eq_card hopen]
  exact ⟨Finset.card_pos.mpr ⟨i, mem_userBlocks.mpr ⟨hi, hready⟩⟩, r.card_userBlocks_le⟩

/-- The share of blocks that the consumer owns, exactly. -/
def exactUtilization (r : Ring) : Rat := (r.readyCount : Rat) / (r.blockCount : Rat)

theorem exactUtilization_bounds (h : 1 ≤ r.readyCount ∧ r.readyCount ≤ r.blockCount) :
    1 / (r.blockCount : Rat) ≤ r.exactUtilization ∧ r.exactUtilization ≤ 1 := by
  have hblocks : (0 : Rat) < r.blockCount := by
    exact_mod_cast Nat.lt_of_lt_of_le h.1 h.2
  have hone : (1 : Rat) ≤ r.readyCount := by exact_mod_cast h.1
  have hall : (r.readyCount : Rat) ≤ r.blockCount := by exact_mod_cast h.2
  unfold exactUtilization
  refine ⟨?_, ?_⟩
  · exact div_le_div_of_nonneg_right hone hblocks.le
  · exact div_le_one_of_le₀ hall hblocks.le

/-! ## Looks -/

/-- Giving a block back takes it out of the waiting ones, and no other. -/
theorem WellFormed.userBlocks_released (hw : r.WellFormed) :
    r.released.userBlocks = r.userBlocks.erase r.cursor := by
  ext i
  rw [Finset.mem_erase, mem_userBlocks, mem_userBlocks]
  show i < r.blockCount ∧ r.released.ready i = true ↔ _
  constructor
  · rintro ⟨hi, hready⟩
    have hne : i ≠ r.cursor := by
      rintro rfl
      rw [hw.ready_released_cursor] at hready
      cases hready
    -- Every octet of another block is as it was, those of its status word included.
    rw [hw.ready_congr hw.released rfl rfl hi fun a => hw.released_byte_of_covers hne] at hready
    exact ⟨hne, hi, hready⟩
  · rintro ⟨hne, hi, hready⟩
    rw [← hw.ready_congr hw.released rfl rfl hi fun a => hw.released_byte_of_covers hne] at hready
    exact ⟨hi, hready⟩

/-- So one block less waits. -/
theorem WellFormed.card_userBlocks_released (hw : r.WellFormed) (hready : r.ready r.cursor = true) :
    r.released.userBlocks.card + 1 = r.userBlocks.card := by
  have hmem : r.cursor ∈ r.userBlocks := mem_userBlocks.mpr ⟨hw.cursor_lt, hready⟩
  rw [hw.userBlocks_released, Finset.card_erase_of_mem hmem]
  exact Nat.sub_add_cancel (Finset.card_pos.mpr ⟨_, hmem⟩)

/-! ## Looks with a handler -/

section Handler

variable {σ : Type}

/-- Visit records as a walk does, `handled` records after it began, and call the handler on each one
as soon as it was found. A call gets the ring, the record, and what the calls before made of theirs.
-/
def visit (handler : Ring → Record → σ → σ) (r : Ring) :
    (left handled offset : Nat) → σ → σ × Except RecordFault Nat
  | 0, handled, _, seen => (seen, .ok handled)
  | left + 1, handled, offset, seen =>
    match (r.block r.cursor).recordAt offset with
    | .error fault => (seen, .error fault)
    | .ok (record, next) =>
      let seen := handler r record seen
      if next = 0 then (seen, .ok (handled + 1))
      else if next < recordHeaderLength then (seen, .error (.shortNext next))
      else visit handler r left (handled + 1) (offset + next) seen

/-- Walk the block at the cursor with a handler. -/
def visitBlock (handler : Ring → Record → σ → σ) (r : Ring) (seen : σ) :
    σ × Except RecordFault Nat :=
  match (r.block r.cursor).header? with
  | none => (seen, .error .blockHeaderOutside)
  | some h => r.visit handler h.packetCount.toNat 0 h.firstOffset.toNat seen

/-- A look with a handler: the calls come first, and behind the last one the block is given back. -/
def processWith (handler : Ring → Record → σ → σ) (r : Ring) (seen : σ) :
    Ring × σ × Except Error (Option Nat) :=
  if r.closed then (r, seen, .error .ringClosed)
  else
    match r.region.loadStatus (r.statusAddress r.cursor) with
    | none => (r, seen, .error (malformed .blockHeaderOutside))
    | some status =>
      if isUserOwned status then
        let (seen, walked) := r.visitBlock handler seen
        match r.release with
        | none => (r, seen, .error (malformed .blockHeaderOutside))
        | some released =>
          match walked with
          | .error fault => (released, seen, .error (malformed fault))
          | .ok handled => (released, seen, .ok (some handled))
      else (r, seen, .ok none)

/-- What the calls of a handler make of records, each of them with the ring `r`. -/
def calls (handler : Ring → Record → σ → σ) (r : Ring) (records : List Record) (seen : σ) : σ :=
  records.foldl (fun seen record => handler r record seen) seen

/-- The induction is on the records that are still to come. The walk gathers its records while it
returns, a visit hands them over while it goes on, so what was seen and handled before is general.
-/
theorem visit_eq (handler : Ring → Record → σ → σ) (r : Ring) (left handled offset : Nat)
    (seen : σ) :
    r.visit handler left handled offset seen
      = (calls handler r ((r.block r.cursor).walkFrom left offset).records seen,
        match ((r.block r.cursor).walkFrom left offset).fault with
        | some fault => .error fault
        | none => .ok (handled + ((r.block r.cursor).walkFrom left offset).records.length)) := by
  induction left generalizing handled offset seen with
  | zero => rfl
  | succ left ih =>
    rw [visit, Block.walkFrom]
    cases (r.block r.cursor).recordAt offset with
    | error fault => rfl
    | ok found =>
      obtain ⟨record, next⟩ := found
      dsimp only
      split
      · rfl
      split
      · rfl
      · rw [ih, List.length_cons, Nat.add_right_comm, Nat.add_assoc]
        rfl

theorem visitBlock_eq (handler : Ring → Record → σ → σ) (r : Ring) (seen : σ) :
    r.visitBlock handler seen
      = (calls handler r (r.block r.cursor).walk.records seen,
        match (r.block r.cursor).walk.fault with
        | some fault => .error fault
        | none => .ok (r.block r.cursor).walk.records.length) := by
  unfold visitBlock Block.walk
  cases (r.block r.cursor).header? with
  | none => rfl
  | some h =>
    dsimp only
    rw [visit_eq, Nat.zero_add]

/-- A look with a handler ends as a look does, and every call gets the ring as it was before. -/
theorem processWith_eq (handler : Ring → Record → σ → σ) (r : Ring) (seen : σ) :
    r.processWith handler seen
      = (r.process.ring, calls handler r r.process.records seen, r.process.result) := by
  unfold processWith process
  by_cases hclosed : r.closed = true
  · rw [if_pos hclosed, if_pos hclosed]
    rfl
  rw [if_neg hclosed, if_neg hclosed]
  cases r.region.loadStatus (r.statusAddress r.cursor) with
  | none => rfl
  | some status =>
    dsimp only
    by_cases huser : isUserOwned status = true
    · rw [if_pos huser, if_pos huser, visitBlock_eq, consume]
      dsimp only
      cases r.release with
      | none => rfl
      | some released => cases (r.block r.cursor).walk.fault <;> rfl
    · rw [if_neg huser, if_neg huser]
      rfl

end Handler

/-- A handler that counts the waiting blocks in each of its calls. -/
def countWaiting (r : Ring) (_ : Record) (counts : List Nat) : List Nat :=
  counts ++ [r.userBlocks.card]

/-- What a handler counts during a look, call by call. -/
def readings (r : Ring) : List Nat := (r.processWith countWaiting []).2.1

theorem calls_countWaiting (r : Ring) (records : List Record) (counts : List Nat) :
    calls countWaiting r records counts
      = counts ++ List.replicate records.length r.userBlocks.card := by
  unfold calls
  induction records generalizing counts with
  | nil => exact (List.append_nil counts).symm
  | cons record records ih =>
    rw [List.foldl_cons, ih, countWaiting, List.length_cons, List.replicate_succ, List.append_assoc,
      List.singleton_append]

/-- Every call counts as many as waited before the look. -/
theorem readings_eq (r : Ring) :
    r.readings = List.replicate r.process.records.length r.userBlocks.card := by
  rw [readings, processWith_eq, calls_countWaiting, List.nil_append]

/-- The block that is being walked is counted. -/
theorem WellFormed.pos_of_mem_readings (hw : r.WellFormed) {count : Nat} (h : count ∈ r.readings) :
    1 ≤ count := by
  rw [readings_eq] at h
  rw [List.eq_of_mem_replicate h]
  -- Only a look at a block that waits finds records.
  rcases hw.process_cases with ⟨-, hlook⟩ | ⟨-, -, hlook⟩ | ⟨-, hready, -⟩
  · rw [hlook] at h
    cases h
  · rw [hlook] at h
    cases h
  · exact Finset.card_pos.mpr ⟨r.cursor, mem_userBlocks.mpr ⟨hw.cursor_lt, hready⟩⟩

/-! ## Runs -/

/-- A ring is released exactly by a release. -/
theorem closed_run_iff (r : Ring) (events : List Event) :
    (r.run events).closed = true ↔ r.closed = true ∨ .close ∈ events := by
  induction events generalizing r with
  | nil => simp [run]
  | cons event events ih =>
    show ((r.step event).run events).closed = true ↔ _
    rw [ih, List.mem_cons]
    cases event with
    | write offset data => simp [step]
    | setStatus offset value => simp [step]
    | process => simp [step, process_closed]
    | close => simp [step, close]

end LinkTap.Ring
