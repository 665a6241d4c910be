/-
How far a walk can come.

A descriptor declares how many records a block holds, and it may declare up to 2^32 of them. It is
not what ends a walk. A record that is handed on has at least one octet behind its header, all of it
inside the block, and the next one is looked for at least a header farther on. So with each record
the room that is left shrinks by 48, and it is the size of the block that bounds the walk: what a
descriptor declares beyond that bound does not even change what the walk finds.

To speak of the places where a walk looks for a record, the walk is written out once more with a log
of its offsets. It is the same walk. An offset is logged before anything is known of what lies
there, so the log has one entry for each turn of the loop, and only the last entry can stand for a
record that was refused.
-/
import Mathlib.Data.List.Chain
import LinkTap.Proofs.Ring.Utilization

set_option autoImplicit false

namespace LinkTap.Ring

namespace Block

/-! ## Turns -/

/-- How a walk goes on after it looked for a record. -/
inductive Turn where
  /-- It ends with what it found. -/
  | stop (found : Walk)
  /-- It found a record and looks for another one at a distance. -/
  | goOn (record : Record) (next : Nat)

/-- What the loop does at an offset: it ends, or it goes on with a record and the next offset. -/
def turn (b : Block) (offset : Nat) : Turn :=
  match b.recordAt offset with
  | .error fault => .stop ⟨[], some fault⟩
  | .ok (record, next) =>
    if next = 0 then .stop ⟨[record], none⟩
    else if next < recordHeaderLength then .stop ⟨[record], some (.shortNext next)⟩
    else .goOn record next

variable {b : Block} {offset : Nat}

theorem walkFrom_succ (b : Block) (left offset : Nat) :
    b.walkFrom (left + 1) offset =
      match b.turn offset with
      | .stop found => found
      | .goOn record next =>
        ⟨record :: (b.walkFrom left (offset + next)).records,
          (b.walkFrom left (offset + next)).fault⟩ := by
  rw [walkFrom, turn]
  cases b.recordAt offset with
  | error fault => rfl
  | ok found =>
    dsimp only
    split
    · rfl
    split <;> rfl

/-- A walk that ends has found one record more at most, and that only where there is room for it. -/
theorem bounds_of_stop {found : Walk} (h : b.turn offset = .stop found) :
    found.records = [] ∨ found.records.length = 1 ∧ 48 ≤ offset ∧ offset + 48 < b.size := by
  unfold turn at h
  split at h
  · rw [← Turn.stop.inj h]
    exact .inl rfl
  rename_i hrecord
  have hroom := room_of_recordAt hrecord
  split at h
  · rw [← Turn.stop.inj h]
    exact .inr ⟨rfl, hroom⟩
  split at h
  · rw [← Turn.stop.inj h]
    exact .inr ⟨rfl, hroom⟩
  · cases h

/-- A walk that goes on does so from a place where there is room, and by a header at least. -/
theorem bounds_of_goOn {record : Record} {next : Nat} (h : b.turn offset = .goOn record next) :
    48 ≤ offset ∧ offset + 48 < b.size ∧ 48 ≤ next := by
  unfold turn at h
  split at h
  · cases h
  rename_i hrecord
  have hroom := room_of_recordAt hrecord
  split at h
  · cases h
  split at h
  · cases h
  · rename_i hfar
    obtain ⟨-, rfl⟩ := Turn.goOn.inj h
    exact ⟨hroom.1, hroom.2, Nat.not_lt.mp hfar⟩

/-! ## Room -/

/-- Each record takes up 48 octets of the room behind the offset, and behind the last one there is
room for one octet more. -/
theorem room_of_walkFrom (b : Block) (left offset : Nat) :
    (b.walkFrom left offset).records = []
      ∨ 48 ≤ offset ∧ offset + 48 * (b.walkFrom left offset).records.length < b.size := by
  induction left generalizing offset with
  | zero => exact .inl rfl
  | succ left ih =>
    rw [walkFrom_succ]
    cases hturn : b.turn offset with
    | stop found =>
      rcases bounds_of_stop hturn with hnone | ⟨hone, hfront, hroom⟩
      · exact .inl hnone
      · dsimp only
        exact .inr ⟨hfront, by omega⟩
    | goOn record next =>
      obtain ⟨hfront, hroom, hnext⟩ := bounds_of_goOn hturn
      right
      dsimp only
      rw [List.length_cons]
      -- The records behind this one begin at least a header farther on, if there are any.
      rcases ih (offset + next) with hnone | ⟨-, hrest⟩
      · rw [hnone, List.length_nil]
        exact ⟨hfront, hroom⟩
      · exact ⟨hfront, by omega⟩

/-- The most records that a block of the given size can hand on. -/
def mostRecords (size : Nat) : Nat := (size - 49) / 48

/-- A walk hands on no more records than there is room for, from wherever it begins. -/
theorem length_records_walkFrom_le (b : Block) (left offset : Nat) :
    (b.walkFrom left offset).records.length ≤ mostRecords b.size := by
  -- No record lies in the descriptor, hence 49 and not 1 in the bound.
  rcases b.room_of_walkFrom left offset with hnone | ⟨hfront, hroom⟩
  · rw [hnone]
    exact Nat.zero_le _
  · rw [mostRecords, Nat.le_div_iff_mul_le (by decide)]
    omega

/-- Where there is no room for one record more than `left`, further ones can be declared to no
effect. -/
theorem walkFrom_add_of_no_room (left more : Nat)
    (h : 48 ≤ offset → b.size ≤ offset + 48 * left + 48) :
    b.walkFrom (left + 1 + more) offset = b.walkFrom (left + 1) offset := by
  induction left generalizing offset with
  | zero =>
    rw [Nat.add_right_comm, walkFrom_succ, walkFrom_succ]
    cases hturn : b.turn offset with
    | stop found => rfl
    | goOn record next =>
      -- A record that leads on would need the room that there is not.
      obtain ⟨hfront, hroom, -⟩ := bounds_of_goOn hturn
      have := h hfront
      omega
  | succ left ih =>
    rw [Nat.add_right_comm, walkFrom_succ, walkFrom_succ b (left + 1)]
    cases hturn : b.turn offset with
    | stop found => rfl
    | goOn record next =>
      obtain ⟨hfront, -, hnext⟩ := bounds_of_goOn hturn
      have hsize := h hfront
      dsimp only
      rw [ih (by omega)]

theorem walkFrom_of_mostRecords_lt {count : Nat} (h : mostRecords b.size < count) (first : Nat) :
    b.walkFrom count first = b.walkFrom (mostRecords b.size + 1) first := by
  obtain ⟨more, rfl⟩ := Nat.exists_eq_add_of_lt h
  rw [Nat.add_right_comm]
  -- What is left is that the bound is large enough for every offset behind the descriptor.
  apply walkFrom_add_of_no_room
  unfold mostRecords
  omega

/-! ## Logs -/

/-- A walk together with the offsets at which it looks for a record, in order. -/
def loggedFrom (b : Block) : (left offset : Nat) → Walk × List Nat
  | 0, _ => (⟨[], none⟩, [])
  | left + 1, offset =>
    match b.turn offset with
    | .stop found => (found, [offset])
    | .goOn record next =>
      let (rest, log) := loggedFrom b left (offset + next)
      (⟨record :: rest.records, rest.fault⟩, offset :: log)

/-- The walk of the records that the descriptor declares, with its log. -/
def logged (b : Block) : Walk × List Nat :=
  match b.header? with
  | none => (⟨[], some .blockHeaderOutside⟩, [])
  | some h => b.loggedFrom h.packetCount.toNat h.firstOffset.toNat

theorem loggedFrom_fst (b : Block) (left offset : Nat) :
    (b.loggedFrom left offset).1 = b.walkFrom left offset := by
  induction left generalizing offset with
  | zero => rfl
  | succ left ih =>
    rw [loggedFrom, walkFrom_succ]
    cases b.turn offset with
    | stop found => rfl
    | goOn record next =>
      dsimp only
      rw [ih]

/-- The log begins where the walk does, and each entry is followed by one that lies a header farther
on. -/
theorem isChain_loggedFrom (b : Block) (left offset : Nat) :
    (∀ first ∈ (b.loggedFrom left offset).2.head?, first = offset)
      ∧ (b.loggedFrom left offset).2.IsChain fun offset next => offset + 48 ≤ next := by
  induction left generalizing offset with
  | zero => exact ⟨nofun, .nil⟩
  | succ left ih =>
    rw [loggedFrom]
    cases hturn : b.turn offset with
    | stop found => simp
    | goOn record next =>
      obtain ⟨-, -, hnext⟩ := bounds_of_goOn hturn
      obtain ⟨hfirst, hchain⟩ := ih (offset + next)
      refine ⟨by simp, List.isChain_cons.mpr ⟨?_, hchain⟩⟩
      intro first hmem
      rw [hfirst first hmem]
      omega

/-- Every entry but the last one stands for a record that was handed on. -/
theorem length_loggedFrom_le (b : Block) (left offset : Nat) :
    (b.loggedFrom left offset).2.length ≤ (b.loggedFrom left offset).1.records.length + 1 := by
  induction left generalizing offset with
  | zero => exact Nat.zero_le _
  | succ left ih =>
    rw [loggedFrom]
    cases b.turn offset with
    | stop found => exact Nat.le_add_left _ _
    | goOn record next => exact Nat.succ_le_succ (ih (offset + next))

/-! ## Whole walks -/

/-- The log changes nothing about the walk. -/
theorem logged_fst (b : Block) : b.logged.1 = b.walk := by
  unfold logged walk
  cases b.header? with
  | none => rfl
  | some h => exact b.loggedFrom_fst _ _

theorem isChain_logged (b : Block) :
    b.logged.2.IsChain fun offset next => offset + 48 ≤ next := by
  unfold logged
  cases b.header? with
  | none => exact .nil
  | some h => exact (b.isChain_loggedFrom _ _).2

theorem length_logged_le (b : Block) : b.logged.2.length ≤ b.logged.1.records.length + 1 := by
  unfold logged
  cases b.header? with
  | none => exact Nat.zero_le _
  | some h => exact b.length_loggedFrom_le _ _

theorem length_records_walk_le (b : Block) : b.walk.records.length ≤ mostRecords b.size := by
  unfold walk
  cases b.header? with
  | none => exact Nat.zero_le _
  | some h => exact b.length_records_walkFrom_le _ _

end Block

/-! ## Looks -/

/-- A handler that counts its calls. -/
def countCall (_ : Ring) (_ : Record) (called : Nat) : Nat := called + 1

/-- How often a look calls its handler. -/
def handlerCalls (r : Ring) : Nat := (r.processWith countCall 0).2.1

theorem calls_countCall (r : Ring) (records : List Record) (called : Nat) :
    calls countCall r records called = called + records.length := by
  unfold calls
  induction records generalizing called with
  | nil => rfl
  | cons record records ih =>
    rw [List.foldl_cons, ih, countCall, List.length_cons, Nat.add_right_comm, Nat.add_assoc]

theorem handlerCalls_eq (r : Ring) : r.handlerCalls = r.process.records.length := by
  rw [handlerCalls, processWith_eq, calls_countCall, Nat.zero_add]

/-- **A walk ends early, whatever a block declares.** In every state of every ring, and for every
block of it: a walk looks for records at offsets each of which lies at least 48 behind the one
before. It hands on no more than `(blockSize - 49) / 48` records, and the loop makes one turn more
at most. Any larger count that a descriptor may declare leads to the same walk as the first one
beyond this bound. A look at the ring calls its handler no more often than that. -/
theorem walk_ends_early (r : Ring) (i : Nat) :
    let b := r.block i
    let limit := (r.blockSize - 49) / 48
    b.logged.1 = b.walk
      ∧ b.logged.2.IsChain (fun offset next => offset + 48 ≤ next)
      ∧ b.walk.records.length ≤ limit
      ∧ b.logged.2.length ≤ limit + 1
      ∧ (∀ count first, limit < count → b.walkFrom count first = b.walkFrom (limit + 1) first)
      ∧ r.handlerCalls ≤ limit := by
  intro b limit
  have hrecords : ∀ i, (r.block i).walk.records.length ≤ limit := fun i =>
    (r.block i).length_records_walk_le
  refine ⟨b.logged_fst, b.isChain_logged, hrecords i, ?_, ?_, ?_⟩
  · -- One turn more than there are records, for the one that is refused.
    have hlog := b.length_logged_le
    rw [b.logged_fst] at hlog
    exact Nat.le_trans hlog (Nat.succ_le_succ (hrecords i))
  · intro count first hcount
    exact b.walkFrom_of_mostRecords_lt hcount first
  · -- A look walks the block at the cursor, or none at all.
    rw [handlerCalls_eq]
    rcases r.process_records_cases with hnone | hwalk
    · rw [hnone]
      exact Nat.zero_le _
    · rw [hwalk]
      exact hrecords r.cursor

end LinkTap.Ring
