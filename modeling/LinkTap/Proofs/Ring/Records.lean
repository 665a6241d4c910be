/-
Which records a block holds.

What a look should hand on can be said without a walk. At every offset of a block lies something
that can be read as a record header, and some of these places are valid: the header is inside the
block and points at octets that are. The first place is named by the descriptor and every place
names the next one. Counted from the first place, a walk ends in one of four ways: the declared
number of records is reached, a record marks itself the last one, a place is invalid, or a record
names a next place inside its own header. The octets of the block decide which of these comes first,
and after how many records.

The induction is on the records that lead on to one behind them. Behind those a walk takes one more
step, and each of the four endings is what that step can bring.
-/
import LinkTap.Proofs.Ring.Run

set_option autoImplicit false

namespace LinkTap

/-! ## Capture times -/

namespace Timestamp

/-- Where a clock begins to count. -/
def epoch : Timestamp := ⟨0, 0⟩

/-- The first second that a clock of signed 64-bit seconds cannot show. -/
def endOfTime : Int := 0x8000000000000000

/-- The point that lies `seconds + nanos / 10^9` behind another one, if a clock can show it. -/
def add? (t : Timestamp) (seconds nanos : Nat) : Option Timestamp :=
  let fraction := t.nanos + nanos % nanosPerSecond
  let whole := t.seconds + (seconds + nanos / nanosPerSecond + fraction / nanosPerSecond : Nat)
  if whole < endOfTime then some ⟨whole, fraction % nanosPerSecond⟩ else none

theorem add?_epoch {seconds nanos : Nat}
    (h : ((seconds + nanos / nanosPerSecond : Nat) : Int) < endOfTime) :
    epoch.add? seconds nanos = some (sinceEpoch seconds nanos) := by
  have hfraction : nanos % nanosPerSecond < nanosPerSecond := Nat.mod_lt _ (by decide)
  unfold add? epoch
  dsimp only
  rw [Nat.zero_add, Nat.div_eq_of_lt hfraction, Nat.add_zero, Int.zero_add, if_pos h, Nat.mod_mod]
  rfl

end Timestamp

namespace Ring

namespace RecordHeader

/-- The capture time as a clock computes it: the checked sum of the epoch and the two fields, or the
present moment where that sum does not exist. -/
def timeAt (h : RecordHeader) (now : Timestamp) : Timestamp :=
  (Timestamp.epoch.add? h.seconds.toNat h.nanos.toNat).getD now

/-- The sum always exists, since the fields are 32-bit words. -/
theorem timeAt_eq_time (h : RecordHeader) (now : Timestamp) : h.timeAt now = h.time := by
  have hseconds : h.seconds.toNat < 4294967296 := h.seconds.toNat_lt
  have hnanos : h.nanos.toNat < 4294967296 := h.nanos.toNat_lt
  have hshown : ((h.seconds.toNat + h.nanos.toNat / nanosPerSecond : Nat) : Int)
      < Timestamp.endOfTime := by
    simp only [Timestamp.endOfTime, nanosPerSecond]
    omega
  rw [timeAt, Timestamp.add?_epoch hshown]
  rfl

/-- The time in nanoseconds is the one that the fields say, and the fraction is below a second. -/
theorem toNanos_time (h : RecordHeader) :
    h.time.toNanos = h.seconds.toNat * 1000000000 + h.nanos.toNat ∧ h.time.nanos < 1000000000 := by
  refine ⟨?_, Nat.mod_lt _ (by decide)⟩
  simp only [time, Timestamp.sinceEpoch, Timestamp.toNanos, nanosPerSecond]
  omega

end RecordHeader

namespace Block

/-! ## Places -/

/-- The descriptor of the block. -/
def descriptor (b : Block) : BlockHeader := BlockHeader.ofBytes (b.octets 0 blockHeaderLength)

/-- What lies at an offset, read as a record header. -/
def headerAt (b : Block) (offset : Nat) : RecordHeader :=
  RecordHeader.ofBytes (b.octets offset recordHeaderLength)

/-- The record that the header at an offset describes. -/
def described (b : Block) (offset : Nat) : Record :=
  let h := b.headerAt offset
  ⟨b.octets (offset + h.macOffset.toNat) h.snapLength.toNat, h.time⟩

/-- The rules for a record at an offset. -/
structure Valid (b : Block) (offset : Nat) : Prop where
  behindDescriptor : 48 ≤ offset
  headerInside : offset + 48 ≤ b.size
  nonempty : 1 ≤ (b.headerAt offset).snapLength.toNat
  snapLength_le : (b.headerAt offset).snapLength.toNat ≤ 65536
  behindHeader : 48 ≤ (b.headerAt offset).macOffset.toNat
  payloadInside :
    offset + (b.headerAt offset).macOffset.toNat + (b.headerAt offset).snapLength.toNat ≤ b.size

/-- The distance from a place to the next one. -/
def distance (b : Block) (offset : Nat) : Nat := (b.headerAt offset).nextOffset.toNat

/-- The places that follow one another from an offset on. -/
def place (b : Block) (first : Nat) : Nat → Nat
  | 0 => first
  | i + 1 => b.place first i + b.distance (b.place first i)

/-- The first `n` places hold valid records, each of which leads on to a place behind its header. -/
def Passes (b : Block) (first n : Nat) : Prop :=
  ∀ i < n, b.Valid (b.place first i) ∧ 48 ≤ b.distance (b.place first i)

/-! ## Endings -/

/-- How a walk ends. -/
inductive Ending where
  /-- As many records as declared were handed on. -/
  | declared
  /-- A record said that none follows. -/
  | last
  /-- A place holds no valid record. -/
  | invalid
  /-- A record was handed on whose next place would be inside its own header. -/
  | short
  deriving DecidableEq, Repr

/-- A block that declares `count` records from `first` on makes a walk end after `n` of them. -/
inductive EndsAfter (b : Block) (first count : Nat) : Nat → Ending → Prop where
  | declared : b.Passes first count → EndsAfter b first count count .declared
  | last {k : Nat} : k < count → b.Passes first k → b.Valid (b.place first k) →
      b.distance (b.place first k) = 0 → EndsAfter b first count (k + 1) .last
  | invalid {n : Nat} : n < count → b.Passes first n → ¬ b.Valid (b.place first n) →
      EndsAfter b first count n .invalid
  | short {k : Nat} : k < count → b.Passes first k → b.Valid (b.place first k) →
      1 ≤ b.distance (b.place first k) → b.distance (b.place first k) ≤ 47 →
      EndsAfter b first count (k + 1) .short

/-- What is reported of a walk that ends after `n` records. -/
def Ending.Reports (ending : Ending) (n : Nat) (result : Except Error (Option Nat)) : Prop :=
  match ending with
  | .declared | .last => result = .ok (some n)
  | .invalid | .short => ∃ reason, result = .error (.ringRecord reason)

variable {b : Block} {first count n : Nat} {ending : Ending}

/-- From wherever a walk has come to, it ends in one of the four ways. -/
theorem exists_endsAfter_of_passes (left : Nat) {k : Nat} (hk : k + left = count)
    (h : b.Passes first k) : ∃ n ending, b.EndsAfter first count n ending := by
  -- `left` places are still to come, and each of them either ends the walk or is passed.
  induction left generalizing k with
  | zero =>
    rw [← hk]
    exact ⟨_, _, .declared h⟩
  | succ left ih =>
    have hlt : k < count := by omega
    by_cases hvalid : b.Valid (b.place first k)
    · rcases Nat.eq_zero_or_pos (b.distance (b.place first k)) with hzero | hpos
      · exact ⟨_, _, .last hlt h hvalid hzero⟩
      by_cases hshort : b.distance (b.place first k) ≤ 47
      · exact ⟨_, _, .short hlt h hvalid hpos hshort⟩
      · refine ih (k := k + 1) (by omega) fun i hi => ?_
        rcases Nat.lt_succ_iff_lt_or_eq.mp hi with hi | rfl
        · exact h i hi
        · exact ⟨hvalid, by omega⟩
    · exact ⟨_, _, .invalid hlt h hvalid⟩

/-- Every block makes a walk end. -/
theorem exists_endsAfter (b : Block) (first count : Nat) :
    ∃ n ending, b.EndsAfter first count n ending :=
  exists_endsAfter_of_passes count (Nat.zero_add count) fun i hi => absurd hi (Nat.not_lt_zero i)

theorem EndsAfter.le (h : b.EndsAfter first count n ending) : n ≤ count := by
  cases h with
  | declared h => exact Nat.le_refl _
  | last hk => exact hk
  | invalid hn => exact Nat.le_of_lt hn
  | short hk => exact hk

/-- What is handed on before the end is valid. -/
theorem EndsAfter.valid (h : b.EndsAfter first count n ending) {i : Nat} (hi : i < n) :
    b.Valid (b.place first i) := by
  cases h with
  | declared h => exact (h i hi).1
  | last _ h hvalid | short _ h hvalid =>
    rcases Nat.lt_succ_iff_lt_or_eq.mp hi with hi | rfl
    · exact (h i hi).1
    · exact hvalid
  | invalid _ h => exact (h i hi).1

/-! ## Walks -/

/-- A valid place holds the record that its header describes. -/
theorem Inside.recordAt_of_valid (hb : b.Inside) {offset : Nat} (h : b.Valid offset) :
    b.recordAt offset = .ok (b.described offset, b.distance offset) := by
  have hfits : ¬ (offset < blockHeaderLength ∨ b.size < offset + recordHeaderLength) := by
    have := h.behindDescriptor
    have := h.headerInside
    simp only [blockHeaderLength, recordHeaderLength]
    omega
  have hfault : b.headerFault? offset (RecordHeader.ofBytes (b.octets offset recordHeaderLength))
      = none :=
    headerFault?_eq_none_iff.mpr ⟨h.nonempty, h.snapLength_le, h.behindHeader, h.payloadInside⟩
  rw [hb.recordAt, if_neg hfits]
  dsimp only
  rw [hfault]
  rfl

/-- An invalid place breaks one of the rules of a walk. -/
theorem Inside.recordAt_of_not_valid (hb : b.Inside) {offset : Nat} (h : ¬ b.Valid offset) :
    ∃ fault, b.recordAt offset = .error fault := by
  rw [hb.recordAt]
  split
  · exact ⟨_, rfl⟩
  · rename_i hfits
    simp only [blockHeaderLength, recordHeaderLength] at hfits
    dsimp only
    split
    · exact ⟨_, rfl⟩
    · rename_i hfault
      obtain ⟨hpos, hmax, hmac, hend⟩ := headerFault?_eq_none_iff.mp hfault
      exact absurd ⟨by omega, by omega, hpos, hmax, hmac, hend⟩ h

/-! ### One step

The case of a valid record splits by what it names: nothing, a place inside its own header, or a
place to go on at. -/

section step

variable {offset : Nat}

theorem Inside.walkFrom_of_not_valid (hb : b.Inside) (left : Nat) (h : ¬ b.Valid offset) :
    ∃ fault, b.walkFrom (left + 1) offset = ⟨[], some fault⟩ := by
  obtain ⟨fault, hfault⟩ := hb.recordAt_of_not_valid h
  exact ⟨fault, by rw [walkFrom, hfault]⟩

theorem Inside.walkFrom_of_last (hb : b.Inside) (left : Nat) (h : b.Valid offset)
    (hzero : b.distance offset = 0) :
    b.walkFrom (left + 1) offset = ⟨[b.described offset], none⟩ := by
  rw [walkFrom, hb.recordAt_of_valid h]
  exact if_pos hzero

/-- The record itself is handed on before its next place is found wanting. -/
theorem Inside.walkFrom_of_short (hb : b.Inside) (left : Nat) (h : b.Valid offset)
    (hpos : 1 ≤ b.distance offset) (hshort : b.distance offset ≤ 47) :
    b.walkFrom (left + 1) offset =
      ⟨[b.described offset], some (.shortNext (b.distance offset))⟩ := by
  have hnonzero : ¬ b.distance offset = 0 := by omega
  have hinside : b.distance offset < recordHeaderLength := by
    simp only [recordHeaderLength]
    omega
  rw [walkFrom, hb.recordAt_of_valid h]
  dsimp only
  rw [if_neg hnonzero, if_pos hinside]

theorem Inside.walkFrom_of_far (hb : b.Inside) (left : Nat) (h : b.Valid offset)
    (hfar : 48 ≤ b.distance offset) :
    b.walkFrom (left + 1) offset =
      ⟨b.described offset :: (b.walkFrom left (offset + b.distance offset)).records,
        (b.walkFrom left (offset + b.distance offset)).fault⟩ := by
  have hnonzero : ¬ b.distance offset = 0 := by omega
  have hbehind : ¬ b.distance offset < recordHeaderLength := by
    simp only [recordHeaderLength]
    omega
  rw [walkFrom, hb.recordAt_of_valid h]
  dsimp only
  rw [if_neg hnonzero, if_neg hbehind]

end step

/-! ### All steps -/

/-- Places counted from the second one on. -/
theorem place_succ (b : Block) (first i : Nat) :
    b.place first (i + 1) = b.place (first + b.distance first) i := by
  induction i with
  | zero => rfl
  | succ i ih => rw [place, ih, place]

/-- The records of the first `n` places. -/
def recordsFrom (b : Block) (first n : Nat) : List Record :=
  (List.range n).map fun i => b.described (b.place first i)

theorem recordsFrom_succ (b : Block) (first n : Nat) :
    b.recordsFrom first (n + 1)
      = b.described first :: b.recordsFrom (first + b.distance first) n := by
  rw [recordsFrom, List.range_succ_eq_map, List.map_cons, List.map_map]
  refine congrArg (b.described first :: ·) (List.map_congr_left fun i _ => ?_)
  exact congrArg b.described (place_succ b first i)

theorem recordsFrom_concat (b : Block) (first n : Nat) :
    b.recordsFrom first (n + 1) = b.recordsFrom first n ++ [b.described (b.place first n)] := by
  rw [recordsFrom, List.range_succ, List.map_append]
  rfl

/-- A walk hands on the records that lead on, and goes on behind them. -/
theorem Inside.walkFrom_of_passes (hb : b.Inside) (left : Nat) (h : b.Passes first n) :
    b.walkFrom (n + left) first =
      ⟨b.recordsFrom first n ++ (b.walkFrom left (b.place first n)).records,
        (b.walkFrom left (b.place first n)).fault⟩ := by
  -- A walk recurses from its first place on, so the induction peels records off the front.
  induction n generalizing first with
  | zero => rw [Nat.zero_add]; rfl
  | succ n ih =>
    obtain ⟨hvalid, hfar⟩ := h 0 (Nat.succ_pos n)
    rw [place] at hvalid hfar
    have hrest : b.Passes (first + b.distance first) n := fun i hi => by
      rw [← place_succ]
      exact h (i + 1) (Nat.succ_lt_succ hi)
    rw [Nat.add_right_comm, hb.walkFrom_of_far (n + left) hvalid hfar, ih hrest, ← place_succ,
      recordsFrom_succ]
    rfl

/-- A walk hands on what lies before its end, and reports how it ends. -/
theorem Inside.walkFrom_of_endsAfter (hb : b.Inside) (h : b.EndsAfter first count n ending) :
    (b.walkFrom count first).records = b.recordsFrom first n
      ∧ ending.Reports n (b.walkFrom count first).outcome := by
  cases h with
  | declared h =>
    have hwalk := hb.walkFrom_of_passes 0 h
    rw [Nat.add_zero] at hwalk
    rw [hwalk]
    refine ⟨List.append_nil _, ?_⟩
    simp [Ending.Reports, Walk.outcome, walkFrom, recordsFrom]
  | @last k hk h hvalid hzero =>
    obtain ⟨left, rfl⟩ := Nat.exists_eq_add_of_lt hk
    rw [Nat.add_assoc, hb.walkFrom_of_passes (left + 1) h, hb.walkFrom_of_last left hvalid hzero,
      recordsFrom_concat]
    refine ⟨rfl, ?_⟩
    simp [Ending.Reports, Walk.outcome, recordsFrom]
  | invalid hn h hinvalid =>
    obtain ⟨left, rfl⟩ := Nat.exists_eq_add_of_lt hn
    obtain ⟨fault, hstep⟩ := hb.walkFrom_of_not_valid left hinvalid
    rw [Nat.add_assoc, hb.walkFrom_of_passes (left + 1) h, hstep]
    exact ⟨List.append_nil _, _, rfl⟩
  | @short k hk h hvalid hpos hshort =>
    obtain ⟨left, rfl⟩ := Nat.exists_eq_add_of_lt hk
    rw [Nat.add_assoc, hb.walkFrom_of_passes (left + 1) h,
      hb.walkFrom_of_short left hvalid hpos hshort, recordsFrom_concat]
    exact ⟨rfl, _, rfl⟩

theorem Inside.walk_of_endsAfter (hb : b.Inside)
    (h : b.EndsAfter b.descriptor.firstOffset.toNat b.descriptor.packetCount.toNat n ending) :
    b.walk.records = b.recordsFrom b.descriptor.firstOffset.toNat n
      ∧ ending.Reports n b.walk.outcome := by
  rw [walk, hb.header?]
  exact hb.walkFrom_of_endsAfter h

end Block

/-! ## Looks -/

/-- **A look hands on the records that the block holds.** Whatever lies in the memory of a ring, a
look at a block of the consumer ends in one of the four ways, and what it brings is told by the
octets of the block: the records handed on are those of the places before the end, in order, all of
them valid, each with the octets that its header points at and the time that its header says. The
look reports their number if as many as declared were handed on or the last one said so, and a
malformed record if a place was invalid or a record named a next place inside its own header, be it
the last one declared. No time is ever taken from the wall clock. -/
theorem process_hands_on_records {region : Region} {blockSize blockCount : Nat} {ring : Ring}
    (hring : create region blockSize blockCount = .ok ring) (events : List Event)
    (hopen : (ring.run events).closed = false)
    (hready : (ring.run events).ready (ring.run events).cursor = true) :
    let r := ring.run events
    let b := r.block r.cursor
    let first := b.descriptor.firstOffset.toNat
    let count := b.descriptor.packetCount.toNat
    b.start = r.cursor * blockSize ∧ b.size = blockSize
      ∧ (∃ n ending, b.EndsAfter first count n ending)
      ∧ (∀ n ending, b.EndsAfter first count n ending →
          n ≤ count ∧ (∀ i < n, b.Valid (b.place first i))
            ∧ r.process.records = (List.range n).map (fun i => b.described (b.place first i))
            ∧ ending.Reports n r.process.result)
      ∧ ∀ offset, let h := b.headerAt offset
          (b.described offset).payload
              = r.region.span (b.start + (offset + h.macOffset.toNat)) h.snapLength.toNat
            ∧ (b.described offset).time.toNanos = h.seconds.toNat * 1000000000 + h.nanos.toNat
            ∧ (b.described offset).time.nanos < 1000000000
            ∧ ∀ now, h.timeAt now = (b.described offset).time := by
  intro r b first count
  -- In every state of a run the block at the cursor lies inside the memory.
  obtain ⟨hw, hsize, -⟩ := run_of_create hring events
  change r.WellFormed at hw
  change r.blockSize = blockSize at hsize
  have hb : b.Inside := hw.inside hw.cursor_lt
  -- The times are clear from the fields, so what is left is the walk of the block.
  refine ⟨by rw [← hsize]; rfl, hsize, b.exists_endsAfter first count, fun n ending hends => ?_,
    fun offset => ⟨rfl, (b.headerAt offset).toNanos_time.1, (b.headerAt offset).toNanos_time.2,
      (b.headerAt offset).timeAt_eq_time⟩⟩
  obtain ⟨hrecords, hreport⟩ := hb.walk_of_endsAfter hends
  rw [hw.process_of_ready hopen hready]
  exact ⟨hends.le, fun i hi => hends.valid hi, hrecords, hreport⟩

/-- A block with one record, the last one declared, that names a next place inside its own header.
-/
theorem process_hands_on_records_short :
    let ring : Ring := ⟨Region.zeroed 4096, 4096, 1, 0, false⟩
    let r := ring.run
      [.write 12 [1, 0, 0, 0, 48], .write 48 [8, 0, 0, 0, 5, 0, 0, 0, 0, 0, 0, 128, 3],
        .write 72 [48], .write 96 [1, 2, 3], .setStatus 8 1]
    create (Region.zeroed 4096) 4096 1 = .ok ring
      ∧ (r.closed = false ∧ r.ready r.cursor = true)
      ∧ (r.block r.cursor).EndsAfter 48 1 1 .short
      ∧ r.process.records = [⟨[1, 2, 3], ⟨7, 147483648⟩⟩]
      ∧ ∃ reason, r.process.result = .error (.ringRecord reason) := by
  intro ring r
  have hring : create (Region.zeroed 4096) 4096 1 = .ok ring := rfl
  have hopen : r.closed = false := rfl
  have hready : r.ready r.cursor = true := by decide +kernel
  have hfirst : (r.block r.cursor).descriptor.firstOffset.toNat = 48 := by decide +kernel
  have hcount : (r.block r.cursor).descriptor.packetCount.toNat = 1 := by decide +kernel
  have hends : (r.block r.cursor).EndsAfter 48 1 1 .short := by
    refine .short (Nat.zero_lt_one) (fun i hi => absurd hi (Nat.not_lt_zero i)) ?_ ?_ ?_
    · exact ⟨by decide +kernel, by decide +kernel, by decide +kernel, by decide +kernel,
        by decide +kernel, by decide +kernel⟩
    · decide +kernel
    · decide +kernel
  obtain ⟨-, -, -, hwalk, -⟩ := process_hands_on_records hring _ hopen hready
  rw [hfirst, hcount] at hwalk
  obtain ⟨-, -, hrecords, hreport⟩ := hwalk 1 .short hends
  exact ⟨hring, ⟨hopen, hready⟩, hends, hrecords.trans (by decide +kernel), hreport⟩

end Ring

end LinkTap
