/-
One lap of a ring.

A receive loop that finds its ring ready looks at one block after the other, at most once at each.
As long as the blocks are the consumer's it walks them and gives them back, and it stops at the
first one of the producer. How far it comes is therefore settled before it begins, by the blocks
that the consumer owns from the cursor on without a gap.

Two things could go wrong on the way. Giving a block back writes into the memory that later blocks
lie in, and a lap that goes all the way round comes close to its own first block again. Neither
happens: giving back reaches the status word of one block only, the blocks of a lap are all
different, and so every block is met as it lay when the lap began.
-/
import LinkTap.Proofs.Ring.Run

set_option autoImplicit false

namespace LinkTap.Ring

variable {r : Ring} {i k : Nat}

/-! ## The blocks from the cursor on -/

/-- The block that the consumer comes to after `i` others. -/
def ahead (r : Ring) (i : Nat) : Nat := (r.cursor + i) % r.blockCount

/-- How many blocks the consumer owns from the cursor on without a gap. -/
def backlog (r : Ring) : Nat :=
  (List.range r.blockCount).findIdx fun i => !r.ready (r.ahead i)

theorem backlog_le (r : Ring) : r.backlog ≤ r.blockCount := by
  have hle : r.backlog ≤ (List.range r.blockCount).length := List.findIdx_le_length
  rwa [List.length_range] at hle

theorem ready_of_lt_backlog (h : i < r.backlog) : r.ready (r.ahead i) = true := by
  have hne := List.not_of_lt_findIdx h
  rw [List.getElem_range] at hne
  simpa using hne

theorem not_ready_backlog (h : r.backlog < r.blockCount) : r.ready (r.ahead r.backlog) = false := by
  have hlength : r.backlog < (List.range r.blockCount).length := by
    rwa [List.length_range]
  have hfirst : (!r.ready (r.ahead (List.range r.blockCount)[r.backlog])) = true :=
    List.findIdx_getElem (w := hlength)
  rw [List.getElem_range] at hfirst
  simpa using hfirst

theorem WellFormed.ahead_lt (hw : r.WellFormed) (i : Nat) : r.ahead i < r.blockCount :=
  Nat.mod_lt _ (Nat.lt_of_le_of_lt (Nat.zero_le _) hw.cursor_lt)

/-- Within a lap no block is met twice. -/
theorem ahead_inj {j : Nat} (hi : i < r.blockCount) (hj : j < r.blockCount)
    (h : r.ahead i = r.ahead j) : i = j := by
  have hsame : r.cursor + i = r.cursor + j :=
    eq_of_mod_eq (Nat.le_add_right r.cursor i) (by omega) (by omega) (by omega) h
  omega

/-! ## Giving back block after block -/

/-- The ring after `k` blocks were given back. -/
def givenBack (r : Ring) : Nat → Ring
  | 0 => r
  | k + 1 => (r.givenBack k).released

theorem WellFormed.givenBack (hw : r.WellFormed) (k : Nat) : (r.givenBack k).WellFormed := by
  induction k with
  | zero => exact hw
  | succ k ih => exact ih.released

/-- Only octets and cursor change. -/
theorem givenBack_frame (r : Ring) (k : Nat) :
    (r.givenBack k).blockSize = r.blockSize ∧ (r.givenBack k).blockCount = r.blockCount
      ∧ (r.givenBack k).closed = r.closed ∧ (r.givenBack k).region.size = r.region.size := by
  induction k with
  | zero => exact ⟨rfl, rfl, rfl, rfl⟩
  | succ k ih => exact ih

theorem statusAddress_givenBack (r : Ring) (k i : Nat) :
    (r.givenBack k).statusAddress i = r.statusAddress i := by
  rw [statusAddress, statusAddress, (r.givenBack_frame k).1]

theorem WellFormed.cursor_givenBack (hw : r.WellFormed) (k : Nat) :
    (r.givenBack k).cursor = r.ahead k := by
  induction k with
  | zero => exact (Nat.mod_eq_of_lt hw.cursor_lt).symm
  | succ k ih =>
    show ((r.givenBack k).cursor + 1) % (r.givenBack k).blockCount
        = (r.cursor + (k + 1)) % r.blockCount
    rw [ih, (r.givenBack_frame k).2.1, ahead, Nat.mod_add_mod, Nat.add_assoc]

/-- The octets after `k` blocks were given back: zeros in their status words, all others as before.
-/
theorem WellFormed.byte_givenBack (hw : r.WellFormed) (k address : Nat) :
    ((∀ i < k, address < r.statusAddress (r.ahead i) ∨ r.statusAddress (r.ahead i) + 4 ≤ address) →
        (r.givenBack k).region.byte address = r.region.byte address)
      ∧ ((∃ i < k, r.statusAddress (r.ahead i) ≤ address
          ∧ address < r.statusAddress (r.ahead i) + 4) →
        (r.givenBack k).region.byte address = 0) := by
  induction k with
  | zero =>
    refine ⟨fun _ => rfl, ?_⟩
    rintro ⟨i, hi, -⟩
    omega
  | succ k ih =>
    obtain ⟨houtside, hinside⟩ := ih
    have hbyte : (r.givenBack (k + 1)).region.byte address = _ :=
      (r.givenBack k).released_byte address
    rw [hw.cursor_givenBack, statusAddress_givenBack] at hbyte
    rw [hbyte]
    refine ⟨fun h => ?_, ?_⟩
    · have hlast := h k (by omega)
      rw [if_neg (by omega)]
      exact houtside fun i hi => h i (by omega)
    · rintro ⟨i, hi, hin⟩
      split
      · rfl
      · rename_i hlast
        -- The block is not the last one that was given back, so it is one of the earlier ones.
        have hne : i ≠ k := by
          rintro rfl
          exact hlast hin
        exact hinside ⟨i, by omega, hin⟩

/-- The octets of a block that was not given back are as before. -/
theorem WellFormed.byte_givenBack_of_covers (hw : r.WellFormed) (hk : k ≤ i) (hi : i < r.blockCount)
    {address : Nat} (h : r.Covers (r.ahead i) address) :
    (r.givenBack k).region.byte address = r.region.byte address := by
  refine (hw.byte_givenBack k address).1 fun j hj => ?_
  by_cases hin : r.statusAddress (r.ahead j) ≤ address ∧ address < r.statusAddress (r.ahead j) + 4
  · -- A status word lies in its own block, which is not this one.
    have hsame := ahead_inj hi (by omega) (h.unique (hw.covers_status hin.1 hin.2))
    omega
  · omega

/-- A block that was not given back belongs to whom it belonged. -/
theorem WellFormed.ready_givenBack (hw : r.WellFormed) (hk : k ≤ i) (hi : i < r.blockCount) :
    (r.givenBack k).ready (r.ahead i) = r.ready (r.ahead i) := by
  obtain ⟨hsize, hcount, -, -⟩ := r.givenBack_frame k
  exact hw.ready_congr (hw.givenBack k) hsize hcount (hw.ahead_lt i)
    fun a ha => hw.byte_givenBack_of_covers hk hi ha

/-- A block that was not given back is walked as before. -/
theorem WellFormed.walk_givenBack (hw : r.WellFormed) (hk : k ≤ i) (hi : i < r.blockCount) :
    ((r.givenBack k).block (r.ahead i)).walk = (r.block (r.ahead i)).walk := by
  obtain ⟨hsize, hcount, -, -⟩ := r.givenBack_frame k
  have hinside := hw.inside (hw.ahead_lt i)
  have hinside' : ((r.givenBack k).block (r.ahead i)).Inside := by
    apply (hw.givenBack k).inside
    rw [hcount]
    exact hw.ahead_lt i
  rw [hinside'.walk_eq, hinside.walk_eq,
    content_congr hsize fun a ha => hw.byte_givenBack_of_covers hk hi ha]

/-- A block that was given back is the producer's. -/
theorem WellFormed.not_ready_givenBack (hw : r.WellFormed) (hi : i < k) :
    (r.givenBack k).ready (r.ahead i) = false := by
  have hcount := (r.givenBack_frame k).2.1
  rw [(hw.givenBack k).ready_eq (by rw [hcount]; exact hw.ahead_lt i), statusAddress_givenBack]
  have hzero := (hw.byte_givenBack k (r.statusAddress (r.ahead i))).2 ⟨i, hi, by omega, by omega⟩
  rw [hzero]
  rfl

/-! ## The looks of a lap -/

/-- A look at a block of the backlog finds it as it lay when the lap began. -/
theorem WellFormed.process_givenBack (hw : r.WellFormed) (hopen : r.closed = false)
    (h : i < r.backlog) :
    (r.givenBack i).process = ⟨r.givenBack (i + 1), (r.block (r.ahead i)).walk.records,
      (r.block (r.ahead i)).walk.outcome⟩ := by
  have hi : i < r.blockCount := Nat.lt_of_lt_of_le h r.backlog_le
  have hopen' : (r.givenBack i).closed = false := by
    rw [(r.givenBack_frame i).2.2.1]
    exact hopen
  have hready : (r.givenBack i).ready (r.givenBack i).cursor = true := by
    rw [hw.cursor_givenBack, hw.ready_givenBack (Nat.le_refl i) hi]
    exact ready_of_lt_backlog h
  rw [(hw.givenBack i).process_of_ready hopen' hready, hw.cursor_givenBack,
    hw.walk_givenBack (Nat.le_refl i) hi]
  rfl

/-- A look behind the backlog finds a block of the producer. -/
theorem WellFormed.process_backlog (hw : r.WellFormed) (hopen : r.closed = false)
    (h : r.backlog < r.blockCount) :
    (r.givenBack r.backlog).process = ⟨r.givenBack r.backlog, [], .ok none⟩ := by
  apply (hw.givenBack _).process_of_not_ready
  · rw [(r.givenBack_frame _).2.2.1]
    exact hopen
  · rw [hw.cursor_givenBack, hw.ready_givenBack (Nat.le_refl _) h]
    exact not_ready_backlog h

end LinkTap.Ring
