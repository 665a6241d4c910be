/-
The hand-over of blocks between the producer and the consumer of a ring.

The two sides share memory and nothing else. The producer fills the blocks in ring order; it writes
what it likes inside the next block as long as that block is its own, and the write that sets the
user bit is the last one of the fill. The consumer processes the block at its cursor. Neither side
knows how far the other one has come, and a cursor that ran ahead or fell behind would be noticed a
lap later at the earliest.

What keeps them together is a count. A run remembers the content of every block at the moment when
it was handed over, and what every look of the consumer brought that found a block. The invariant
says that the blocks of the consumer are those that hold a fill not yet consumed, at their places
modulo the number of blocks, that their octets are still the ones handed over, and that what was
walked is what was filled, in order.
-/
import LinkTap.Proofs.Ring.Process

set_option autoImplicit false

namespace LinkTap.Ring

/-- A ring between its two sides, with the history of both. -/
structure Handover where
  ring : Ring
  /-- The content of each block when the producer handed it over, oldest first. -/
  fills : List Bytes := []
  /-- What each look of the consumer brought that found a block: the records handed on and the
  result. -/
  walks : List (List Record × Except Error (Option Nat)) := []

namespace Handover

/-- What one of the two sides does. -/
inductive Move where
  /-- The producer writes at an offset of the block that it fills next. -/
  | produce (offset : Nat) (data : Bytes)
  /-- The consumer processes the block at its cursor. -/
  | process
  deriving DecidableEq, Repr

/-- How many blocks were handed over. -/
def filled (h : Handover) : Nat := h.fills.length

/-- How many blocks were consumed. -/
def consumed (h : Handover) : Nat := h.walks.length

/-- The block that the producer fills next. -/
def next (h : Handover) : Nat := h.filled % h.ring.blockCount

/-- A write of the producer. It stays inside the next block and happens only while the producer owns
that block; once the user bit is set the block is handed over. -/
def produce (h : Handover) (offset : Nat) (data : Bytes) : Handover :=
  if h.ring.ready h.next ∨ h.ring.blockSize < offset + data.length then h
  else
    match h.ring.region.write (h.next * h.ring.blockSize + offset) data with
    | none => h
    | some region =>
      let ring := h.ring.withBytes region.byte
      if ring.ready h.next then { h with ring, fills := h.fills ++ [(ring.block h.next).content] }
      else { h with ring }

/-- A look of the consumer. -/
def look (h : Handover) : Handover :=
  let step := h.ring.process
  match step.result with
  | .ok none => { h with ring := step.ring }
  | result => { h with ring := step.ring, walks := h.walks ++ [(step.records, result)] }

def step (h : Handover) : Move → Handover
  | .produce offset data => h.produce offset data
  | .process => h.look

/-- The state after moves of both sides, in any order. -/
def run (ring : Ring) (moves : List Move) : Handover := moves.foldl step { ring }

/-- What walking a content brings: the records handed on and the result. -/
def walkOf (content : Bytes) : List Record × Except Error (Option Nat) :=
  let walk := (Block.ofContent content).walk
  (walk.records, walk.outcome)

/-! ## The invariant -/

/-- Memory, cursor and history agree. -/
structure Consistent (h : Handover) : Prop where
  wellFormed : h.ring.WellFormed
  isOpen : h.ring.closed = false
  consumed_le : h.consumed ≤ h.filled
  /-- The producer is at most one lap ahead. -/
  filled_le : h.filled ≤ h.consumed + h.ring.blockCount
  cursor : h.ring.cursor = h.consumed % h.ring.blockCount
  /-- The consumer owns the blocks that hold a fill not yet consumed. -/
  ready_iff : ∀ i < h.ring.blockCount,
    (h.ring.ready i = true ↔ ∃ k, h.consumed ≤ k ∧ k < h.filled ∧ k % h.ring.blockCount = i)
  /-- Such a fill is still in its block. -/
  waiting : ∀ k, h.consumed ≤ k → (hk : k < h.fills.length) →
    (h.ring.block (k % h.ring.blockCount)).content = h.fills[k]
  /-- The blocks walked are the oldest fills. -/
  walks : h.walks = (h.fills.take h.consumed).map walkOf

variable {h : Handover}

theorem Consistent.blockCount_pos (hc : h.Consistent) : 0 < h.ring.blockCount :=
  Nat.lt_of_le_of_lt (Nat.zero_le _) hc.wellFormed.cursor_lt

theorem Consistent.next_lt (hc : h.Consistent) : h.next < h.ring.blockCount :=
  Nat.mod_lt _ hc.blockCount_pos

/-- A created ring over zeroed memory has handed nothing over. -/
theorem consistent_start {size blockSize blockCount : Nat} {ring : Ring}
    (hring : Ring.create (Region.zeroed size) blockSize blockCount = .ok ring) :
    Consistent { ring } := by
  obtain ⟨rfl, hw⟩ := create_eq_ok hring
  refine ⟨hw, rfl, Nat.le_refl _, Nat.zero_le _, (Nat.zero_mod _).symm, fun i hi => ?_,
    fun k _ hk => absurd hk (Nat.not_lt_zero k), rfl⟩
  have hkernel : Ring.ready _ i = false := (hw.ready_eq hi).trans rfl
  rw [hkernel]
  constructor
  · intro hfalse
    cases hfalse
  · rintro ⟨k, -, hk, -⟩
    exact absurd hk (Nat.not_lt_zero k)

/-! ## The producer's moves -/

/-- While the producer owns the next block it is less than a lap ahead. -/
theorem Consistent.filled_lt (hc : h.Consistent) (hnext : h.ring.ready h.next = false) :
    h.filled < h.consumed + h.ring.blockCount := by
  refine Nat.lt_of_le_of_ne hc.filled_le fun hlap => ?_
  have hpos := hc.blockCount_pos
  have hready : h.ring.ready h.next = true := by
    refine (hc.ready_iff _ hc.next_lt).mpr ⟨h.consumed, Nat.le_refl _, by omega, ?_⟩
    rw [next, hlap, Nat.add_mod_right]
  rw [hready] at hnext
  cases hnext

/-- A block of the producer holds no fill that waits. -/
theorem Consistent.mod_ne_next (hc : h.Consistent) (hnext : h.ring.ready h.next = false) {k : Nat}
    (hk : h.consumed ≤ k) (hk' : k < h.filled) : k % h.ring.blockCount ≠ h.next := by
  intro heq
  rw [(hc.ready_iff _ hc.next_lt).mpr ⟨k, hk, hk', heq⟩] at hnext
  cases hnext

/-- A write inside the next block leaves the other blocks as they are. -/
theorem Consistent.write_frame (hc : h.Consistent) {offset : Nat} {data : Bytes} {region : Region}
    (hfit : offset + data.length ≤ h.ring.blockSize)
    (hwrite : h.ring.region.write (h.next * h.ring.blockSize + offset) data = some region)
    {i : Nat} (hi : i < h.ring.blockCount) (hne : i ≠ h.next) :
    (h.ring.withBytes region.byte).ready i = h.ring.ready i
      ∧ ((h.ring.withBytes region.byte).block i).content = (h.ring.block i).content := by
  have hbyte : ∀ a, h.ring.Covers i a → region.byte a = h.ring.region.byte a := by
    intro a ha
    have hout : a < h.next * h.ring.blockSize + offset
        ∨ h.next * h.ring.blockSize + offset + data.toArray.size ≤ a := by
      rw [List.size_toArray]
      by_cases hin : h.ring.Covers h.next a
      · exact absurd (ha.unique hin) hne
      · simp only [Covers] at hin
        omega
    rw [Region.eq_of_write hwrite]
    exact Region.overlay_of_outside _ hout
  have hw := hc.wellFormed
  exact ⟨hw.ready_congr (hw.withBytes _) rfl rfl hi hbyte, content_congr rfl hbyte⟩

/-- With the octets of another memory, all blocks but the next one look as they do in the ring. -/
def SameOutsideNext (h : Handover) (byte : Nat → UInt8) : Prop :=
  ∀ i < h.ring.blockCount, i ≠ h.next →
    (h.ring.withBytes byte).ready i = h.ring.ready i
      ∧ ((h.ring.withBytes byte).block i).content = (h.ring.block i).content

/-- The fills that wait are not touched by a write into the next block. -/
theorem Consistent.waiting_withBytes (hc : h.Consistent) (hnext : h.ring.ready h.next = false)
    {byte : Nat → UInt8} (hsame : h.SameOutsideNext byte) {k : Nat} (hk : h.consumed ≤ k)
    (hk' : k < h.fills.length) :
    ((h.ring.withBytes byte).block (k % h.ring.blockCount)).content = h.fills[k] := by
  have hmod : k % h.ring.blockCount < h.ring.blockCount := Nat.mod_lt _ hc.blockCount_pos
  rw [(hsame _ hmod (hc.mod_ne_next hnext hk hk')).2]
  exact hc.waiting k hk hk'

/-- A write that sets the user bit completes the fill. -/
theorem Consistent.handOver (hc : h.Consistent) (hnext : h.ring.ready h.next = false)
    {byte : Nat → UInt8} (hsame : h.SameOutsideNext byte)
    (hset : (h.ring.withBytes byte).ready h.next = true) :
    Consistent { h with
      ring := h.ring.withBytes byte
      fills := h.fills ++ [((h.ring.withBytes byte).block h.next).content] } := by
  have hfilled := hc.filled_lt hnext
  refine ⟨hc.wellFormed.withBytes byte, hc.isOpen, ?_, ?_, hc.cursor, fun i hi => ?_,
    fun k hk hk' => ?_, ?_⟩
  · simp only [filled, consumed, List.length_append, List.length_singleton]
    exact Nat.le_succ_of_le hc.consumed_le
  · simp only [filled, consumed, List.length_append, List.length_singleton]
    exact hfilled
  · simp only [filled, consumed, List.length_append, List.length_singleton]
    by_cases hi' : i = h.next
    · rw [hi']
      exact iff_of_true hset ⟨h.fills.length, hc.consumed_le, Nat.lt_succ_self _, rfl⟩
    · rw [(hsame i hi hi').1, hc.ready_iff i hi]
      constructor
      · rintro ⟨k, hk, hk', hmod⟩
        exact ⟨k, hk, Nat.lt_succ_of_lt hk', hmod⟩
      · rintro ⟨k, hk, hk', hmod⟩
        -- The new fill is the one in the next block, and this is another block.
        rcases Nat.lt_succ_iff_lt_or_eq.mp hk' with hlt | rfl
        · exact ⟨k, hk, hlt, hmod⟩
        · exact absurd hmod.symm hi'
  · simp only [List.length_append, List.length_singleton] at hk'
    rcases Nat.lt_succ_iff_lt_or_eq.mp hk' with hlt | rfl
    · rw [List.getElem_append_left hlt]
      exact hc.waiting_withBytes hnext hsame hk hlt
    · rw [List.getElem_concat_length rfl]
      rfl
  · refine hc.walks.trans (congrArg (List.map walkOf) ?_)
    exact (List.take_append_of_le_length hc.consumed_le).symm

/-- A write that leaves the user bit clear leaves the fill incomplete. -/
theorem Consistent.fillOn (hc : h.Consistent) (hnext : h.ring.ready h.next = false)
    {byte : Nat → UInt8} (hsame : h.SameOutsideNext byte)
    (hclear : ¬ (h.ring.withBytes byte).ready h.next = true) :
    Consistent { h with ring := h.ring.withBytes byte } := by
  refine ⟨hc.wellFormed.withBytes byte, hc.isOpen, hc.consumed_le, hc.filled_le, hc.cursor,
    fun i hi => ?_, fun k hk hk' => hc.waiting_withBytes hnext hsame hk hk', hc.walks⟩
  by_cases hi' : i = h.next
  · rw [hi']
    refine iff_of_false hclear ?_
    rintro ⟨k, hk, hk', hmod⟩
    exact hc.mod_ne_next hnext hk hk' hmod
  · rw [(hsame i hi hi').1]
    exact hc.ready_iff i hi

theorem Consistent.produce (hc : h.Consistent) (offset : Nat) (data : Bytes) :
    (h.produce offset data).Consistent := by
  unfold Handover.produce
  split
  · exact hc
  rename_i hguard
  obtain ⟨hnext, hfit⟩ := not_or.mp hguard
  rw [Bool.not_eq_true] at hnext
  split
  · exact hc
  rename_i region hwrite
  have hsame : h.SameOutsideNext region.byte := fun i hi hne =>
    hc.write_frame (Nat.le_of_not_lt hfit) hwrite hi hne
  dsimp only
  split
  · rename_i hset
    exact hc.handOver hnext hsame hset
  · rename_i hclear
    exact hc.fillOn hnext hsame hclear

/-! ## The consumer's moves -/

/-- What the consumer finds at its cursor is the oldest fill that waits. -/
theorem Consistent.consumed_lt (hc : h.Consistent) (hready : h.ring.ready h.ring.cursor = true) :
    h.consumed < h.filled := by
  obtain ⟨k, hk, hk', hmod⟩ := (hc.ready_iff _ hc.wellFormed.cursor_lt).mp hready
  exact Nat.lt_of_le_of_lt hk hk'

/-- The consumer walks the octets that were handed over. -/
theorem Consistent.walk_cursor (hc : h.Consistent) (hlt : h.consumed < h.fills.length) :
    ((h.ring.block h.ring.cursor).walk.records, (h.ring.block h.ring.cursor).walk.outcome)
      = walkOf h.fills[h.consumed] := by
  rw [(hc.wellFormed.inside hc.wellFormed.cursor_lt).walk_eq, walkOf, hc.cursor,
    hc.waiting h.consumed (Nat.le_refl _) hlt]

/-- A look that finds a block gives it back and remembers what the oldest waiting fill brought. -/
theorem Consistent.look_of_ready (hc : h.Consistent) (hready : h.ring.ready h.ring.cursor = true)
    (hlt : h.consumed < h.fills.length) :
    h.look = { h with
      ring := h.ring.released
      walks := h.walks ++ [walkOf h.fills[h.consumed]] } := by
  rw [Handover.look, hc.wellFormed.process_of_ready hc.isOpen hready, ← hc.walk_cursor hlt]
  dsimp only
  cases hfault : (h.ring.block h.ring.cursor).walk.fault <;> simp only [Walk.outcome, hfault]

/-- The fills behind the oldest one lie in other blocks. -/
theorem Consistent.mod_ne_cursor (hc : h.Consistent) {k : Nat} (hk : h.consumed < k)
    (hk' : k < h.filled) : k % h.ring.blockCount ≠ h.ring.cursor := by
  intro hmod
  have hle := hc.filled_le
  rw [hc.cursor] at hmod
  have heq := eq_of_mod_eq (Nat.le_of_lt hk) (by omega) (Nat.le_refl _) (by omega) hmod
  omega

theorem Consistent.look (hc : h.Consistent) : h.look.Consistent := by
  have hw := hc.wellFormed
  cases hready : h.ring.ready h.ring.cursor with
  | false =>
    rw [Handover.look, hw.process_of_not_ready hc.isOpen hready]
    exact hc
  | true =>
    have hlt := hc.consumed_lt hready
    have hle := hc.filled_le
    have hconsumed : h.look.consumed = h.consumed + 1 := by
      simp [hc.look_of_ready hready hlt, consumed]
    rw [hc.look_of_ready hready hlt] at hconsumed ⊢
    refine ⟨hw.released, hc.isOpen, ?_, ?_, ?_, fun i hi => ?_, fun k hk hk' => ?_, ?_⟩
    · rw [hconsumed]
      exact hlt
    · rw [hconsumed]
      exact Nat.le_trans hle (by simp only [released]; omega)
    · rw [hconsumed]
      simp only [released, hc.cursor, Nat.mod_add_mod]
    · by_cases hi' : i = h.ring.cursor
      · rw [hi']
        refine iff_of_false (by simp only [hw.ready_released_cursor]; exact Bool.false_ne_true) ?_
        rintro ⟨k, hk, hk', hmod⟩
        rw [hconsumed] at hk
        exact hc.mod_ne_cursor hk hk' hmod
      · have hframe : h.ring.released.ready i = h.ring.ready i :=
          hw.ready_congr hw.released rfl rfl hi fun a => hw.released_byte_of_covers hi'
        rw [hconsumed]
        refine Iff.trans (by rw [hframe]) ((hc.ready_iff i hi).trans ⟨?_, ?_⟩)
        · rintro ⟨k, hk, hk', hmod⟩
          refine ⟨k, Nat.lt_of_le_of_ne hk ?_, hk', hmod⟩
          -- The fill at the cursor is the only one that leaves.
          rintro rfl
          exact hi' (hmod.symm.trans hc.cursor.symm)
        · rintro ⟨k, hk, hk', hmod⟩
          exact ⟨k, Nat.le_of_succ_le hk, hk', hmod⟩
    · rw [hconsumed] at hk
      have hframe : (h.ring.released.block (k % h.ring.blockCount)).content
          = (h.ring.block (k % h.ring.blockCount)).content :=
        content_congr rfl fun a => hw.released_byte_of_covers (hc.mod_ne_cursor hk hk')
      exact hframe.trans (hc.waiting k (Nat.le_of_succ_le hk) hk')
    · rw [hconsumed]
      change h.walks ++ _ = (h.fills.take (h.consumed + 1)).map walkOf
      rw [List.take_succ_eq_append_getElem hlt, List.map_append, ← hc.walks]
      rfl

/-- A look finds nothing exactly when every fill was consumed. -/
theorem Consistent.process_eq_none_iff (hc : h.Consistent) :
    h.ring.process.result = .ok none ↔ h.consumed = h.filled := by
  have hw := hc.wellFormed
  cases hready : h.ring.ready h.ring.cursor with
  | false =>
    rw [hw.process_of_not_ready hc.isOpen hready]
    refine iff_of_true rfl (Nat.le_antisymm hc.consumed_le (Nat.le_of_not_lt fun hlt => ?_))
    have hwaits := (hc.ready_iff _ hw.cursor_lt).mpr
      ⟨h.consumed, Nat.le_refl _, hlt, hc.cursor.symm⟩
    rw [hready] at hwaits
    cases hwaits
  | true =>
    rw [hw.process_of_ready hc.isOpen hready]
    refine iff_of_false ?_ (Nat.ne_of_lt (hc.consumed_lt hready))
    unfold Walk.outcome
    split <;> exact fun hnone => by cases hnone

/-- A look changes no octet of a block that the producer owns. -/
theorem Consistent.process_frame (hc : h.Consistent) {i a : Nat} (hi : h.ring.ready i = false)
    (ha : h.ring.Covers i a) : h.ring.process.ring.region.byte a = h.ring.region.byte a := by
  have hw := hc.wellFormed
  cases hready : h.ring.ready h.ring.cursor with
  | false => rw [hw.process_of_not_ready hc.isOpen hready]
  | true =>
    rw [hw.process_of_ready hc.isOpen hready]
    refine hw.released_byte_of_covers ?_ ha
    rintro rfl
    rw [hready] at hi
    cases hi

/-- The waiting blocks follow one another from the cursor on. -/
theorem Consistent.ready_iff_from_cursor (hc : h.Consistent) {i : Nat}
    (hi : i < h.ring.blockCount) :
    h.ring.ready i = true
      ↔ ∃ d < h.filled - h.consumed, (h.ring.cursor + d) % h.ring.blockCount = i := by
  rw [hc.ready_iff i hi, hc.cursor]
  simp only [Nat.mod_add_mod]
  constructor
  · rintro ⟨k, hk, hk', hmod⟩
    exact ⟨k - h.consumed, by omega, by rwa [Nat.add_sub_cancel' hk]⟩
  · rintro ⟨d, hd, hmod⟩
    exact ⟨h.consumed + d, Nat.le_add_right _ _, by omega, hmod⟩

/-! ## Runs -/

theorem Consistent.step (hc : h.Consistent) (move : Move) : (h.step move).Consistent := by
  cases move with
  | produce offset data => exact hc.produce offset data
  | process => exact hc.look

/-- The moves do not change the shape of the ring. -/
theorem step_geometry (h : Handover) (move : Move) :
    (h.step move).ring.blockSize = h.ring.blockSize
      ∧ (h.step move).ring.blockCount = h.ring.blockCount := by
  cases move with
  | produce offset data =>
    simp only [Handover.step, Handover.produce]
    split
    · exact ⟨rfl, rfl⟩
    split
    · exact ⟨rfl, rfl⟩
    split <;> exact ⟨rfl, rfl⟩
  | process =>
    simp only [Handover.step, Handover.look]
    split <;> exact process_geometry h.ring

theorem consistent_foldl (moves : List Move) (hc : h.Consistent) :
    (moves.foldl step h).Consistent
      ∧ (moves.foldl step h).ring.blockCount = h.ring.blockCount
      ∧ (moves.foldl step h).ring.blockSize = h.ring.blockSize := by
  induction moves generalizing h with
  | nil => exact ⟨hc, rfl, rfl⟩
  | cons move moves ih =>
    obtain ⟨hc', hcount, hsize⟩ := ih (hc.step move)
    obtain ⟨hsize', hcount'⟩ := step_geometry h move
    exact ⟨hc', hcount.trans hcount', hsize.trans hsize'⟩

/-- **The hand-over protocol.** Whatever the two sides do, in any order and with any content, the
blocks of the consumer are the ones that hold a fill not yet consumed; they follow one another from
the cursor on, and the cursor counts the blocks consumed, modulo the ring. What the looks brought
that found a block is what walking the fills brings, each fill once and in order, malformed ones
included; a look finds nothing only if nothing waits, and it never touches a block of the producer.
-/
theorem fills_walked_once_in_order {size blockSize blockCount : Nat} {ring : Ring}
    (hring : Ring.create (Region.zeroed size) blockSize blockCount = .ok ring) (moves : List Move) :
    let h := run ring moves
    h.ring.blockSize = blockSize ∧ h.ring.blockCount = blockCount
      ∧ h.consumed ≤ h.filled ∧ h.filled - h.consumed ≤ blockCount
      ∧ h.ring.cursor = h.consumed % blockCount
      ∧ (∀ i < blockCount, h.ring.ready i = true
          ↔ ∃ k, h.consumed ≤ k ∧ k < h.filled ∧ k % blockCount = i)
      ∧ (∀ i < blockCount, h.ring.ready i = true
          ↔ ∃ d < h.filled - h.consumed, (h.ring.cursor + d) % blockCount = i)
      ∧ h.walks = (h.fills.take h.consumed).map walkOf
      ∧ (h.ring.process.result = .ok none ↔ h.consumed = h.filled)
      ∧ ∀ i < blockCount, h.ring.ready i = false → ∀ a, h.ring.Covers i a →
          h.ring.process.ring.region.byte a = h.ring.region.byte a := by
  intro h
  obtain ⟨hc, hcount, hsize⟩ := consistent_foldl moves (consistent_start hring)
  obtain ⟨rfl, -⟩ := create_eq_ok hring
  change h.Consistent at hc
  change h.ring.blockCount = blockCount at hcount
  change h.ring.blockSize = blockSize at hsize
  rw [← hcount]
  have hlap := hc.filled_le
  exact ⟨hsize, rfl, hc.consumed_le, by omega, hc.cursor, hc.ready_iff,
    fun i hi => hc.ready_iff_from_cursor hi, hc.walks, hc.process_eq_none_iff,
    fun i _ hi a => hc.process_frame hi⟩

/-- Two blocks, and more fills than fit in a lap with a look between them. -/
theorem fills_walked_once_in_order_two_blocks :
    let ring : Ring := ⟨Region.zeroed 8192, 4096, 2, 0, false⟩
    let h := run ring [.produce 8 [1], .produce 8 [1], .process, .produce 12 [1], .produce 8 [1]]
    Ring.create (Region.zeroed 8192) 4096 2 = .ok ring
      ∧ (h.filled = 3 ∧ h.consumed = 1)
      ∧ h.ring.cursor = h.consumed % 2 ∧ h.walks = (h.fills.take h.consumed).map walkOf := by
  intro ring h
  have hring : Ring.create (Region.zeroed 8192) 4096 2 = .ok ring := rfl
  obtain ⟨-, -, -, -, hcursor, -, -, hwalks, -⟩ := fills_walked_once_in_order hring
    [.produce 8 [1], .produce 8 [1], .process, .produce 12 [1], .produce 8 [1]]
  exact ⟨hring, ⟨by decide +kernel, by decide +kernel⟩, hcursor, hwalks⟩

end Handover

end LinkTap.Ring
