/-
Looking at a ring stays inside the ring.

Every offset that a look uses comes out of memory that somebody else writes: 32-bit offsets,
distances and lengths, 16-bit positions, and a count of records of up to 2^32. A block, on the other
hand, may be almost as large as the address space. To see that none of this goes wrong, the look is
written out once more with words for addresses. A sum or a product outside the address space has no
answer, an access outside the region has none, and a slice has none unless it lies in its block
behind both headers and has an admissible length. The look written in this way always answers, and
answers the same.

Most bounds follow from the check made just before. The running offset is different: it is moved on
before it is checked, and the check at the next record is itself a sum. What bounds it is the count.
An offset grows by less than 2^32 for each record, and there are fewer than 2^32 of them, so even
behind the last one it is at most 2^64 - 2^32.
-/
import LinkTap.Proofs.Ring.Records

set_option autoImplicit false

namespace LinkTap.Ring

/-! ## Words -/

/-- A computed address or offset, if it is a word. -/
def word? (n : Nat) : Option Nat := if n < addressSpace then some n else none

theorem word?_eq {n : Nat} (h : n < addressSpace) : word? n = some n := if_pos h

/-- The largest word of 32 bits. -/
def maxWord32 : Nat := 0xFFFFFFFF

/-- The farthest offset that a walk can come to: one distance for each record that a block can
declare, behind the farthest offset of the first one. -/
def farthest : Nat := 0xFFFFFFFF00000000

theorem farthest_eq : maxWord32 + maxWord32 * maxWord32 = farthest := by decide

/-- Behind the farthest offset there is still room, though for less than another distance. -/
theorem farthest_lt : 131072 ≤ maxWord32 ∧ maxWord32 < farthest ∧ farthest < addressSpace := by
  decide

theorem toNat_le_maxWord32 (w : UInt32) : w.toNat ≤ maxWord32 := by
  have := w.toNat_lt
  simp only [maxWord32]
  omega

namespace Block

/-! ## Records -/

/-- The octets of a record that may be handed on. -/
def slice? (b : Block) (start length : Nat) : Option Bytes :=
  if 96 ≤ start ∧ start + length ≤ b.size ∧ 1 ≤ length ∧ length ≤ 65536 then do
    let address ← word? (b.start + start)
    b.region.read address length
  else none

/-- The record at `offset`, in words and with checked accesses. -/
def checkedRecordAt? (b : Block) (offset : Nat) : Option (Except RecordFault (Record × Nat)) :=
  if offset < blockHeaderLength then some (.error (.doesNotFit offset b.size))
  else do
    let headerEnd ← word? (offset + recordHeaderLength)
    if b.size < headerEnd then return .error (.doesNotFit offset b.size)
    else
      let address ← word? (b.start + offset)
      let raw ← b.region.read address recordHeaderLength
      let h := RecordHeader.ofBytes raw
      let length := h.snapLength.toNat
      let mac := h.macOffset.toNat
      if length = 0 ∨ maxSnapLength < length then return .error (.snapLength length offset)
      else if mac < recordHeaderLength then return .error (.macOverlap mac)
      else
        let start ← word? (offset + mac)
        let stop ← word? (start + length)
        if b.size < stop then return .error (.payloadRunsPast length start)
        else
          let payload ← b.slice? start length
          return .ok (⟨payload, h.time⟩, h.nextOffset.toNat)

variable {b : Block}

theorem Inside.end_lt (hb : b.Inside) : b.start + b.size < addressSpace := hb.holds.1

/-- What passed the checks of a record is a slice that may be handed on. -/
theorem Inside.slice?_eq (hb : b.Inside) {offset length mac : Nat} (hoffset : 48 ≤ offset)
    (hmac : 48 ≤ mac) (hpos : 1 ≤ length) (hmax : length ≤ 65536)
    (hend : offset + mac + length ≤ b.size) :
    b.slice? (offset + mac) length = some (b.octets (offset + mac) length) := by
  have hspace := hb.end_lt
  rw [slice?, if_pos ⟨by omega, hend, hpos, hmax⟩, word?_eq (by omega)]
  exact hb.read hend

/-- The 16-bit position and the admissible length of a payload are all that is added to an offset
before their sum is checked. -/
theorem Inside.checkedRecordAt?_eq (hb : b.Inside) {offset : Nat}
    (hoffset : offset + 131072 ≤ addressSpace) :
    b.checkedRecordAt? offset = some (b.recordAt offset) := by
  have hspace := hb.end_lt
  rw [hb.recordAt]
  unfold checkedRecordAt?
  by_cases hfront : offset < blockHeaderLength
  · rw [if_pos hfront, if_pos (.inl hfront)]
  have hheader : offset + recordHeaderLength < addressSpace := by
    simp only [recordHeaderLength]
    omega
  rw [if_neg hfront, word?_eq hheader, Option.bind_eq_bind, Option.bind_some]
  by_cases hback : b.size < offset + recordHeaderLength
  · rw [if_pos hback, if_pos (.inr hback)]
    rfl
  -- The record header is inside, and what it says is checked field by field.
  rw [if_neg hback, if_neg (not_or.mpr ⟨hfront, hback⟩), word?_eq (by omega)]
  have hread := hb.read (Nat.not_lt.mp hback)
  rw [Option.bind_eq_bind, Option.bind_some, hread, Option.bind_some]
  dsimp only
  generalize RecordHeader.ofBytes (b.octets offset recordHeaderLength) = h
  unfold headerFault?
  dsimp only
  by_cases hlength : h.snapLength.toNat = 0 ∨ maxSnapLength < h.snapLength.toNat
  · rw [if_pos hlength, if_pos hlength]
    rfl
  rw [if_neg hlength, if_neg hlength]
  by_cases hmac : h.macOffset.toNat < recordHeaderLength
  · rw [if_pos hmac, if_pos hmac]
    rfl
  rw [if_neg hmac, if_neg hmac]
  have hposition : h.macOffset.toNat < 65536 := h.macOffset.toNat_lt
  simp only [blockHeaderLength, recordHeaderLength, maxSnapLength] at hfront hlength hmac
  rw [word?_eq (by omega), Option.bind_some, word?_eq (by omega), Option.bind_some]
  by_cases hpast : b.size < offset + h.macOffset.toNat + h.snapLength.toNat
  · rw [if_pos hpast, if_pos hpast]
    rfl
  · rw [if_neg hpast, if_neg hpast,
      hb.slice?_eq (by omega) (by omega) (by omega) (by omega) (by omega)]
    rfl

/-! ## Walks -/

/-- A walk in words, `handled` records after it began. -/
def checkedWalkFrom? (b : Block) : (left handled offset : Nat) → Option Walk
  | 0, _, _ => some ⟨[], none⟩
  | left + 1, handled, offset => do
    match ← b.checkedRecordAt? offset with
    | .error fault => return ⟨[], some fault⟩
    | .ok (record, next) =>
      let handled ← word? (handled + 1)
      if next = 0 then return ⟨[record], none⟩
      else if next < recordHeaderLength then return ⟨[record], some (.shortNext next)⟩
      else
        let offset ← word? (offset + next)
        let rest ← checkedWalkFrom? b left handled offset
        return ⟨record :: rest.records, rest.fault⟩

/-- The walk of a block with every access checked. -/
def checkedWalk? (b : Block) : Option Walk := do
  let raw ← b.region.read b.start blockHeaderLength
  let h := BlockHeader.ofBytes raw
  b.checkedWalkFrom? h.packetCount.toNat 0 h.firstOffset.toNat

/-- The distance that a record names is a 32-bit number. -/
theorem Inside.next_le (hb : b.Inside) {offset next : Nat} {record : Record}
    (h : b.recordAt offset = .ok (record, next)) : next ≤ maxWord32 := by
  rw [hb.recordAt] at h
  split at h
  · cases h
  dsimp only at h
  split at h
  · cases h
  · obtain ⟨-, rfl⟩ := Prod.mk.inj (Except.ok.inj h)
    exact toNat_le_maxWord32 _

/-- With `left` records to come an offset has room for as many distances. -/
theorem Inside.checkedWalkFrom?_eq (hb : b.Inside) {left handled offset : Nat}
    (hoffset : offset + left * maxWord32 ≤ farthest)
    (hhandled : handled + left ≤ maxWord32) :
    b.checkedWalkFrom? left handled offset = some (b.walkFrom left offset) := by
  -- Each record uses up the room of one distance and one of the records that may still be counted.
  induction left generalizing handled offset with
  | zero => rfl
  | succ left ih =>
    rw [Nat.succ_mul] at hoffset
    have hlimits := farthest_lt
    have hroom : offset + 131072 ≤ addressSpace := by omega
    rw [checkedWalkFrom?, walkFrom, hb.checkedRecordAt?_eq hroom, Option.bind_eq_bind,
      Option.bind_some]
    cases hrecord : b.recordAt offset with
    | error fault => rfl
    | ok found =>
      obtain ⟨record, next⟩ := found
      have hnext := hb.next_le hrecord
      have hcounted : handled + 1 < addressSpace := by omega
      have hmoved : offset + next < addressSpace := by omega
      dsimp only
      rw [word?_eq hcounted, Option.bind_eq_bind, Option.bind_some]
      by_cases hlast : next = 0
      · rw [if_pos hlast, if_pos hlast]
        rfl
      rw [if_neg hlast, if_neg hlast]
      by_cases hshort : next < recordHeaderLength
      · rw [if_pos hshort, if_pos hshort]
        rfl
      · rw [if_neg hshort, if_neg hshort, word?_eq hmoved, Option.bind_some,
          ih (by omega) (by omega), Option.bind_eq_bind, Option.bind_some]
        rfl

/-- Within its memory a block is walked without an access out of bounds. -/
theorem Inside.checkedWalk?_eq (hb : b.Inside) : b.checkedWalk? = some b.walk := by
  have hread : b.region.read b.start blockHeaderLength = some (b.octets 0 blockHeaderLength) := by
    have h : b.region.read (b.start + 0) blockHeaderLength = some (b.octets 0 blockHeaderLength) :=
      hb.read (by simpa using hb.descriptor)
    rwa [Nat.add_zero] at h
  rw [checkedWalk?, walk, hb.header?, hread, Option.bind_eq_bind, Option.bind_some]
  dsimp only
  -- A walk begins at a 32-bit offset and counts to a 32-bit number.
  generalize BlockHeader.ofBytes (b.octets 0 blockHeaderLength) = h
  have hcount := toNat_le_maxWord32 h.packetCount
  have hfirst := toNat_le_maxWord32 h.firstOffset
  apply hb.checkedWalkFrom?_eq
  · rw [← farthest_eq]
    exact Nat.add_le_add hfirst (Nat.mul_le_mul_right maxWord32 hcount)
  · omega

/-- Whatever a walk hands on lies in its block behind both headers. -/
theorem Inside.exists_octets_of_mem_walk (hb : b.Inside) {record : Record}
    (h : record ∈ b.walk.records) :
    ∃ start length, 96 ≤ start ∧ start + length ≤ b.size ∧ 1 ≤ length ∧ length ≤ 65536
      ∧ record.payload = b.octets start length := by
  obtain ⟨n, ending, hends⟩ := b.exists_endsAfter _ _
  rw [(hb.walk_of_endsAfter hends).1, recordsFrom] at h
  obtain ⟨i, hi, rfl⟩ := List.mem_map.mp h
  have hvalid := hends.valid (List.mem_range.mp hi)
  have hbehind := hvalid.behindDescriptor
  have hmac := hvalid.behindHeader
  exact ⟨_, _, by omega, hvalid.payloadInside, hvalid.nonempty, hvalid.snapLength_le, rfl⟩

/-! ## Faults -/

/-- The faults that an access outside the region would be reported as. -/
def Outside (fault : RecordFault) : Prop :=
  fault = .blockHeaderOutside ∨ fault = .headerOutside ∨ fault = .payloadOutside

theorem Inside.not_outside_of_recordAt (hb : b.Inside) {offset : Nat} {fault : RecordFault}
    (h : b.recordAt offset = .error fault) : ¬ Outside fault := by
  rw [hb.recordAt] at h
  split at h
  · rw [← Except.error.inj h]
    simp [Outside]
  dsimp only at h
  split at h
  · rename_i found hfound
    rw [← Except.error.inj h]
    unfold headerFault? at hfound
    dsimp only at hfound
    split at hfound
    · simp [← Option.some.inj hfound, Outside]
    split at hfound
    · simp [← Option.some.inj hfound, Outside]
    split at hfound
    · simp [← Option.some.inj hfound, Outside]
    · cases hfound
  · cases h

theorem Inside.not_outside_of_walkFrom (hb : b.Inside) {left offset : Nat} {fault : RecordFault}
    (h : (b.walkFrom left offset).fault = some fault) : ¬ Outside fault := by
  induction left generalizing offset with
  | zero => cases h
  | succ left ih =>
    rw [walkFrom] at h
    split at h
    · rename_i found hfound
      rw [← Option.some.inj h]
      exact hb.not_outside_of_recordAt hfound
    split at h
    · cases h
    split at h
    · rw [← Option.some.inj h]
      simp [Outside]
    · exact ih h

theorem Inside.not_outside_of_walk (hb : b.Inside) {fault : RecordFault}
    (h : b.walk.fault = some fault) : ¬ Outside fault := by
  rw [walk, hb.header?] at h
  exact hb.not_outside_of_walkFrom h

end Block

/-! ### Texts -/

theorem take_toList_append {front : String} (rest : String) {n : Nat}
    (h : n ≤ front.toList.length) :
    (front ++ rest).toList.take n = front.toList.take n := by
  rw [String.toList_append, List.take_append_of_le_length h]

/-- The first ten characters of a report, which come before any number. -/
def RecordFault.opening : RecordFault → String
  | blockHeaderOutside => "block head"
  | headerOutside => "record hea"
  | payloadOutside => "payload ou"
  | doesNotFit .. => "record at "
  | snapLength .. => "snap lengt"
  | macOverlap _ => "link-layer"
  | payloadRunsPast .. => "payload of"
  | shortNext _ => "next recor"

theorem RecordFault.take_message (fault : RecordFault) :
    fault.message.toList.take 10 = fault.opening.toList := by
  unfold message opening
  cases fault
  case blockHeaderOutside | headerOutside | payloadOutside => decide
  all_goals
    simp only [toString, String.append_assoc]
    rw [take_toList_append _ (by decide)]
    decide

/-- The texts of the other faults are not those of an access outside the region. -/
theorem RecordFault.message_ne {fault other : RecordFault} (h : ¬ Block.Outside fault)
    (hother : Block.Outside other) : fault.message ≠ other.message := by
  intro hsame
  have hopening : fault.opening.toList = other.opening.toList := by
    rw [← fault.take_message, hsame, other.take_message]
  rcases hother with rfl | rfl | rfl
  all_goals
    cases fault
    case blockHeaderOutside | headerOutside | payloadOutside => simp [Block.Outside] at h
    all_goals
      simp only [RecordFault.opening] at hopening
      exact absurd hopening (by decide)

/-! ## Looks -/

/-- A look in words and with checked accesses. -/
def checkedProcess? (r : Ring) : Option Step :=
  if r.closed then some ⟨r, [], .error .ringClosed⟩
  else do
    let start ← word? (r.cursor * r.blockSize)
    let address ← word? (start + statusOffset)
    let status ← r.region.loadStatus address
    if isUserOwned status then
      let walk ← (⟨r.region, start, r.blockSize⟩ : Block).checkedWalk?
      let region ← r.region.storeStatus address kernelOwned
      let next ← word? (r.cursor + 1)
      return ⟨{ r with region, cursor := next % r.blockCount }, walk.records, walk.outcome⟩
    else return ⟨r, [], .ok none⟩

/-- Count the blocks of the consumer among `indices`, in words and with checked accesses, `count`
blocks having been counted before. -/
def countReady? (r : Ring) : (count : Nat) → (indices : List Nat) → Option Nat
  | count, [] => some count
  | count, i :: indices => do
    let start ← word? (i * r.blockSize)
    let address ← word? (start + statusOffset)
    let status ← r.region.loadStatus address
    if isUserOwned status then
      let count ← word? (count + 1)
      countReady? r count indices
    else countReady? r count indices

/-- The utilisation with every access checked. -/
def checkedUtilization? (r : Ring) : Option Float :=
  if r.closed then some 0
  else do
    let count ← r.countReady? 0 (List.range r.blockCount)
    return count.toUInt64.toFloat / r.blockCount.toUInt64.toFloat

variable {r : Ring} {i : Nat}

theorem WellFormed.blockCount_lt (hw : r.WellFormed) : r.blockCount < addressSpace :=
  Nat.lt_of_le_of_lt (Nat.le_mul_of_pos_left _ hw.size_pos) hw.space

/-- Every block begins at a word, and so does its status word. -/
theorem WellFormed.statusAddress_lt (hw : r.WellFormed) (hi : i < r.blockCount) :
    i * r.blockSize < addressSpace ∧ i * r.blockSize + statusOffset < addressSpace := by
  have hend := block_end_le hi
  have hspace := hw.space
  have hpage := hw.page_le
  simp only [pageSize] at hpage
  simp only [statusOffset]
  omega

/-- In a ring that has its shape no look has an access out of bounds. -/
theorem WellFormed.checkedProcess?_eq (hw : r.WellFormed) : r.checkedProcess? = some r.process := by
  unfold checkedProcess?
  rcases hw.process_cases with ⟨hclosed, hlook⟩ | ⟨hopen, hready, hlook⟩ | ⟨hopen, hready, hlook⟩
  · rw [if_pos hclosed, hlook]
  -- An open ring reads the status word of the block at the cursor before anything else.
  all_goals
    obtain ⟨hstart, haddress⟩ := hw.statusAddress_lt hw.cursor_lt
    have hstatus := Region.loadStatus_of_holds (hw.holdsStatus hw.cursor_lt)
    rw [ready, hstatus] at hready
    dsimp only at hready
    rw [if_neg (by simp [hopen]), hlook, word?_eq hstart, Option.bind_eq_bind, Option.bind_some,
      word?_eq haddress, Option.bind_some]
    change (r.region.loadStatus (r.statusAddress r.cursor)).bind _ = _
    rw [hstatus, Option.bind_some]
  · rw [if_neg (by simp [hready])]
    rfl
  · have hnext : r.cursor + 1 < addressSpace := by
      have := hw.cursor_lt
      have := hw.blockCount_lt
      omega
    rw [if_pos hready]
    change ((r.block r.cursor).checkedWalk?).bind _ = _
    rw [(hw.inside hw.cursor_lt).checkedWalk?_eq, Option.bind_some]
    change (r.region.storeStatus (r.statusAddress r.cursor) kernelOwned).bind _ = _
    rw [Region.storeStatus_of_holds (hw.holdsStatus hw.cursor_lt), Option.bind_some, word?_eq hnext]
    rfl

/-- At most as many blocks are counted as there are, and their number is a word. -/
theorem WellFormed.countReady?_eq (hw : r.WellFormed) {count : Nat} {indices : List Nat}
    (hindices : ∀ i ∈ indices, i < r.blockCount) (hcount : count + indices.length ≤ r.blockCount) :
    r.countReady? count indices = some (count + indices.countP r.ready) := by
  induction indices generalizing count with
  | nil => rfl
  | cons i indices ih =>
    have hi := hindices i (List.mem_cons_self ..)
    have hrest : ∀ j ∈ indices, j < r.blockCount :=
      fun j hj => hindices j (List.mem_cons_of_mem i hj)
    obtain ⟨hstart, haddress⟩ := hw.statusAddress_lt hi
    have hstatus := Region.loadStatus_of_holds (hw.holdsStatus hi)
    have hspace := hw.blockCount_lt
    rw [List.length_cons] at hcount
    rw [countReady?, word?_eq hstart, Option.bind_eq_bind, Option.bind_some, word?_eq haddress,
      Option.bind_some]
    change (r.region.loadStatus (r.statusAddress i)).bind _ = _
    rw [hstatus, Option.bind_some, List.countP_cons]
    have hready : r.ready i = isUserOwned (Bytes.le32 (r.region.span (r.statusAddress i) 4) 0) := by
      rw [ready, hstatus]
    by_cases huser : r.ready i = true
    · rw [if_pos (hready ▸ huser), if_pos huser, word?_eq (by omega), Option.bind_some,
        ih hrest (by omega), Nat.add_right_comm, Nat.add_assoc]
    · rw [if_neg (hready ▸ huser), if_neg huser, ih hrest (by omega), Nat.add_zero]

theorem WellFormed.checkedUtilization?_eq (hw : r.WellFormed) :
    r.checkedUtilization? = some r.utilization := by
  unfold checkedUtilization? utilization
  by_cases hclosed : r.closed = true
  · rw [if_pos hclosed, if_pos hclosed]
  · rw [if_neg hclosed, if_neg hclosed, readyCount, if_neg hclosed,
      hw.countReady?_eq (fun i hi => List.mem_range.mp hi) (by simp), Nat.zero_add]
    rfl

theorem WellFormed.result_ne_outside (hw : r.WellFormed) {outside : RecordFault}
    (h : Block.Outside outside) : r.process.result ≠ .error (malformed outside) := by
  intro hresult
  rcases hw.process_cases with ⟨-, hlook⟩ | ⟨-, -, hlook⟩ | ⟨-, -, hlook⟩
  all_goals rw [hlook] at hresult
  · cases hresult
  · cases hresult
  -- What a walk reports is one of the other faults, and they have other texts.
  · unfold Walk.outcome at hresult
    split at hresult
    · rename_i fault hfault
      have hmessage := Error.ringRecord.inj (Except.error.inj hresult)
      have hinside := (hw.inside hw.cursor_lt).not_outside_of_walk hfault
      exact RecordFault.message_ne hinside h hmessage
    · cases hresult

theorem WellFormed.exists_octets_of_mem_process (hw : r.WellFormed) {record : Record}
    (h : record ∈ r.process.records) :
    ∃ start length, 96 ≤ start ∧ start + length ≤ r.blockSize ∧ 1 ≤ length ∧ length ≤ 65536
      ∧ record.payload = (r.block r.cursor).octets start length := by
  rcases hw.process_cases with ⟨-, hlook⟩ | ⟨-, -, hlook⟩ | ⟨-, -, hlook⟩
  all_goals rw [hlook] at h
  · cases h
  · cases h
  · exact (hw.inside hw.cursor_lt).exists_octets_of_mem_walk h

/-- **Looks stay inside the ring.** In every state of a ring that was created over any memory,
whatever was written into it and however it was used: a look and the share of waiting blocks come
out the same when all their sums and products are words and all their accesses are checked. So none
of them leaves the address space, no access leaves the region, and no status word is missing. None
of the three reports of an access outside the region is ever made. Whatever is handed on is a slice
of the block at the cursor, at least 96 octets behind its beginning and between 1 and 65536 octets
long. -/
theorem looks_stay_inside {region : Region} {blockSize blockCount : Nat} {ring : Ring}
    (hring : create region blockSize blockCount = .ok ring) (events : List Event) :
    let r := ring.run events
    r.checkedProcess? = some r.process
      ∧ r.checkedUtilization? = some r.utilization
      ∧ r.process.result ≠ .error (.ringRecord "block header outside ring region")
      ∧ r.process.result ≠ .error (.ringRecord "record header outside ring region")
      ∧ r.process.result ≠ .error (.ringRecord "payload outside ring region")
      ∧ (∀ i < blockCount, ∃ status, r.region.loadStatus (i * blockSize + 8) = some status)
      ∧ ∀ record ∈ r.process.records, ∃ start length,
          96 ≤ start ∧ start + length ≤ blockSize ∧ 1 ≤ length ∧ length ≤ 65536
            ∧ record.payload = r.region.span (r.cursor * blockSize + start) length := by
  intro r
  obtain ⟨hw, hsize, hcount⟩ := run_of_create hring events
  change r.WellFormed at hw
  change r.blockSize = blockSize at hsize
  change r.blockCount = blockCount at hcount
  subst hsize hcount
  refine ⟨hw.checkedProcess?_eq, hw.checkedUtilization?_eq, hw.result_ne_outside (.inl rfl),
    hw.result_ne_outside (.inr (.inl rfl)), hw.result_ne_outside (.inr (.inr rfl)), ?_, ?_⟩
  · intro i hi
    exact ⟨_, Region.loadStatus_of_holds (hw.holdsStatus hi)⟩
  · intro record hrecord
    exact hw.exists_octets_of_mem_process hrecord

/-- A block that takes up the address space but for one page. Its first record lies as far off as a
descriptor can say, names the farthest next one, and has its octet as far behind its header as it
can. -/
theorem looks_stay_inside_far :
    let ring : Ring := ⟨Region.zeroed 18446744073709547520, 18446744073709547520, 1, 0, false⟩
    let events : List Event :=
      [.write 12 [2, 0, 0, 0, 255, 255, 255, 255],
        .write 4294967295
          [255, 255, 255, 255, 0, 0, 0, 0, 0, 0, 0, 0, 1, 0, 0, 0, 0, 0, 0, 0, 0, 0, 0, 0,
            255, 255],
        .write 4295032830 [7], .setStatus 8 1]
    create (Region.zeroed 18446744073709547520) 18446744073709547520 1 = .ok ring
      ∧ (ring.run events).checkedProcess? = some (ring.run events).process
      ∧ (ring.run events).process.records = [⟨[7], ⟨0, 0⟩⟩]
      ∧ ((ring.run events).block 0).walk.fault = some (.snapLength 0 8589934590) := by
  intro ring events
  have hring : create (Region.zeroed 18446744073709547520) 18446744073709547520 1 = .ok ring := by
    rfl
  obtain ⟨hchecked, -⟩ := looks_stay_inside hring events
  exact ⟨hring, hchecked, by decide +kernel, by decide +kernel⟩

end LinkTap.Ring
