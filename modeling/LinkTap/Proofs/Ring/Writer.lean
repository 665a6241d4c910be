/-
What is written into a block is what a look hands on.

Filling a block is a list of writes, and no two of them touch a common address: the fields of a
header are apart, the octets lie behind their header, a record ends before the next one begins, and
the descriptor comes before all of them. So the order of the writes does not matter, and at the end
each of them can still be read where it was made, whatever the block held before. What is read as a
header is then what was written as one, and the places of the records are where the walk goes.

The count of a descriptor is a 32-bit number. A block that can hold more records than that has at
least 320 GiB.
-/
import LinkTap.Proofs.Bytes
import LinkTap.Proofs.Ring.Records
import LinkTap.Ring.Writer

set_option autoImplicit false

namespace LinkTap

/-! ## Writes -/

namespace Region

/-- What was written is found where it was written. -/
def Shows (r : Region) (w : Nat × Bytes) : Prop := r.span w.1 w.2.length = w.2

/-- Two writes touch no common address. -/
def Apart (v w : Nat × Bytes) : Prop := v.1 + v.2.length ≤ w.1 ∨ w.1 + w.2.length ≤ v.1

/-- A field of a span is a span of the memory. -/
theorem field_span (r : Region) {offset length start width : Nat} (h : start + width ≤ length) :
    Bytes.field (r.span offset length) start width = r.span (offset + start) width := by
  apply List.ext_getElem
  · simp [Bytes.field]
    omega
  · intro i hi hi'
    simp [Bytes.field, span, Nat.add_assoc]

variable {r r' : Region} {v w : Nat × Bytes} {writes : List (Nat × Bytes)} {address : Nat}

/-- Octets show right after they were written. -/
theorem shows_of_write (h : r.write w.1 w.2 = some r') : r'.Shows w := by
  rw [eq_of_write h]
  exact span_overlay r w.1 w.2

/-- A word that was written is read from a span around it. -/
theorem Shows.le32_span {start length k n : Nat} (h : r.Shows (start + k, Bytes.ofNatLE 4 n))
    (hk : k + 4 ≤ length) : Bytes.le32 (r.span start length) k = UInt32.ofNat n := by
  apply Bytes.le32_of_field
  rw [field_span r hk]
  simpa [Shows] using h

theorem Shows.le16_span {start length k n : Nat} (h : r.Shows (start + k, Bytes.ofNatLE 2 n))
    (hk : k + 2 ≤ length) : Bytes.le16 (r.span start length) k = UInt16.ofNat n := by
  apply Bytes.le16_of_field
  rw [field_span r hk]
  simpa [Shows] using h

theorem byte_of_write (h : r.write w.1 w.2 = some r')
    (hout : address < w.1 ∨ w.1 + w.2.length ≤ address) : r'.byte address = r.byte address := by
  rw [eq_of_write h]
  exact overlay_of_outside r.byte (by simpa using hout)

/-- Octets go on showing if the next write is apart from them. -/
theorem Shows.write (hv : r.Shows v) (h : r.write w.1 w.2 = some r') (hapart : Apart v w) :
    r'.Shows v := by
  rw [Shows, ← hv, length_span]
  apply span_eq_span_iff.mpr
  intro i hi
  apply byte_of_write h
  rcases hapart with hbefore | hbehind <;> omega

/-- Writes that all lie inside the memory succeed, one after the other. -/
theorem exists_writeEach? (h : ∀ w ∈ writes, r.Holds w.1 w.2.length) :
    ∃ r', r.writeEach? writes = some r' ∧ r'.size = r.size := by
  induction writes generalizing r with
  | nil => exact ⟨r, rfl, rfl⟩
  | cons w writes ih =>
    have hw : r.write w.1 w.2 = some _ := if_pos (h w (List.mem_cons_self ..))
    -- A write keeps the length of the memory, so the others fit as before.
    have hrest : ∀ v ∈ writes,
        Region.Holds { r with byte := overlay r.byte w.1 w.2.toArray } v.1 v.2.length := by
      intro v hv
      exact h v (List.mem_cons_of_mem w hv)
    obtain ⟨r', hr', hsize⟩ := ih hrest
    exact ⟨r', by rw [writeEach?, hw, Option.bind_some, hr'], hsize⟩

/-- An octet that none of the writes touches is as it was. -/
theorem byte_of_writeEach? (h : r.writeEach? writes = some r')
    (hout : ∀ w ∈ writes, address < w.1 ∨ w.1 + w.2.length ≤ address) :
    r'.byte address = r.byte address := by
  induction writes generalizing r with
  | nil => rw [Option.some.inj h]
  | cons w writes ih =>
    obtain ⟨written, hw, hrest⟩ := Option.bind_eq_some_iff.mp h
    rw [ih hrest fun v hv => hout v (List.mem_cons_of_mem w hv)]
    exact byte_of_write hw (hout w (List.mem_cons_self ..))

theorem Shows.writeEach? (hv : r.Shows v) (h : r.writeEach? writes = some r')
    (hapart : ∀ w ∈ writes, Apart v w) : r'.Shows v := by
  induction writes generalizing r with
  | nil => rwa [← Option.some.inj h]
  | cons w writes ih =>
    obtain ⟨written, hw, hrest⟩ := Option.bind_eq_some_iff.mp h
    have hwritten := hv.write hw (hapart w (List.mem_cons_self ..))
    exact ih hwritten hrest fun u hu => hapart u (List.mem_cons_of_mem w hu)

/-- Writes that touch no common address are all found at the end. -/
theorem shows_of_writeEach? (h : r.writeEach? writes = some r') (hapart : writes.Pairwise Apart) :
    ∀ w ∈ writes, r'.Shows w := by
  induction writes generalizing r with
  | nil => simp
  | cons w writes ih =>
    obtain ⟨written, hw, hrest⟩ := Option.bind_eq_some_iff.mp h
    obtain ⟨hhead, htail⟩ := List.pairwise_cons.mp hapart
    intro v hv
    rcases List.mem_cons.mp hv with rfl | hv
    · exact (shows_of_write hw).writeEach? hrest hhead
    · exact ih hrest htail v hv

/-- Storing a status word is a write of its four octets. -/
theorem storeStatus_eq_write {offset : Nat} (halign : offset % 4 = 0) (value : UInt32) :
    r.storeStatus offset value = r.write offset (Bytes.ofNatLE 4 value.toNat) := by
  by_cases hholds : r.Holds offset 4
  · rw [storeStatus_of_holds ⟨halign, hholds⟩, write, if_pos (by simpa using hholds)]
  · rw [storeStatus, if_neg fun h => hholds h.2, write, if_neg (by simpa using hholds)]

theorem writeEach?_append (r : Region) (writes more : List (Nat × Bytes)) :
    r.writeEach? (writes ++ more) = (r.writeEach? writes).bind fun r => r.writeEach? more := by
  induction writes generalizing r with
  | nil => rfl
  | cons w writes ih =>
    rw [List.cons_append, writeEach?, writeEach?, Option.bind_assoc]
    simp only [ih]

end Region

namespace Ring

open Region (Apart Shows)

/-! ## Headers -/

theorem RecordHeader.ofBytes_span {region : Region} {h : RecordHeader} {start : Nat}
    (hshows : ∀ w ∈ h.writes start, region.Shows w) :
    RecordHeader.ofBytes (region.span start recordHeaderLength) = h := by
  simp only [writes, List.mem_cons, List.not_mem_nil, or_false, forall_eq_or_imp,
    forall_eq] at hshows
  obtain ⟨hnext, hseconds, hnanos, hsnap, hwire, hstatus, hmac, hnet⟩ := hshows
  unfold ofBytes
  rw [hnext.le32_span (k := 0) (by decide), hseconds.le32_span (by decide),
    hnanos.le32_span (by decide), hsnap.le32_span (by decide), hwire.le32_span (by decide),
    hstatus.le32_span (by decide), hmac.le16_span (by decide), hnet.le16_span (by decide)]
  simp

namespace Draft

/-- A draft that claims nothing false, with as many octets as a record may hold. -/
structure Plain (d : Draft) : Prop where
  snapLength : d.snapLength? = none
  nextOffset : d.nextOffset? = none
  nonempty : 1 ≤ d.payload.length
  length_le : d.payload.length ≤ 65536

/-- The record that a look makes of a draft. -/
def record (d : Draft) : Record := ⟨d.payload, Timestamp.sinceEpoch d.seconds.toNat d.nanos.toNat⟩

variable {d : Draft} {start : Nat} {last : Bool}

theorem length_le_stride (d : Draft) :
    64 + d.payload.length ≤ d.stride ∧ d.stride ≤ 79 + d.payload.length := by
  simp only [stride, payloadOffset, recordHeaderLength]
  omega

/-- The writes for a record lie between its beginning and the end of its octets. -/
theorem bounds_of_mem_writes {w : Nat × Bytes} (h : w ∈ d.writes start last) :
    start ≤ w.1 ∧ w.1 + w.2.length ≤ start + 64 + d.payload.length := by
  simp only [writes, RecordHeader.writes, payloadOffset, recordHeaderLength, List.mem_append,
    List.mem_cons, List.not_mem_nil, or_false] at h
  rcases h with (rfl | rfl | rfl | rfl | rfl | rfl | rfl | rfl) | rfl <;> simp <;> omega

theorem pairwise_writes (d : Draft) (start : Nat) (last : Bool) :
    (d.writes start last).Pairwise Apart := by
  simp [writes, RecordHeader.writes, Apart, payloadOffset, recordHeaderLength]

end Draft

/-! ## Layout -/

/-- All records end inside a block of the given size, the first one beginning at `offset`. -/
def Fits (size : Nat) : (offset : Nat) → List Draft → Prop
  | _, [] => True
  | offset, d :: drafts =>
    offset + Draft.payloadOffset + d.payload.length ≤ size ∧ Fits size (offset + d.stride) drafts

instance (size : Nat) : (offset : Nat) → (drafts : List Draft) → Decidable (Fits size offset drafts)
  | _, [] => isTrue trivial
  | offset, d :: drafts =>
    have : Decidable (Fits size (offset + d.stride) drafts) :=
      instDecidableFits size (offset + d.stride) drafts
    inferInstanceAs (Decidable (_ ∧ _))

variable {base offset size : Nat} {drafts : List Draft} {w : Nat × Bytes}

theorem le_of_mem_recordWrites (h : w ∈ recordWrites base offset drafts) : base + offset ≤ w.1 := by
  induction drafts generalizing offset with
  | nil => cases h
  | cons d drafts ih =>
    rcases List.mem_append.mp h with h | h
    · exact (Draft.bounds_of_mem_writes h).1
    · have := ih h
      omega

/-- No write of a record goes beyond the block. -/
theorem end_le_of_mem_recordWrites (hfits : Fits size offset drafts)
    (h : w ∈ recordWrites base offset drafts) : w.1 + w.2.length ≤ base + size := by
  induction drafts generalizing offset with
  | nil => cases h
  | cons d drafts ih =>
    obtain ⟨hfirst, hrest⟩ := hfits
    rcases List.mem_append.mp h with h | h
    · have := (Draft.bounds_of_mem_writes h).2
      simp only [Draft.payloadOffset, recordHeaderLength] at hfirst
      omega
    · exact ih hrest h

/-- A record ends before the next one begins. -/
theorem pairwise_recordWrites (base offset : Nat) (drafts : List Draft) :
    (recordWrites base offset drafts).Pairwise Apart := by
  induction drafts generalizing offset with
  | nil => exact .nil
  | cons d drafts ih =>
    apply List.pairwise_append.mpr
    refine ⟨d.pairwise_writes _ _, ih _, ?_⟩
    intro v hv w hw
    have hbefore := (Draft.bounds_of_mem_writes hv).2
    have hbehind := le_of_mem_recordWrites hw
    have hstride := d.length_le_stride
    -- The gap behind the octets of a record belongs to it.
    left
    omega

/-- All writes that fill a block, the status word last. -/
def blockWrites (base : Nat) (drafts : List Draft) : List (Nat × Bytes) :=
  recordWrites base blockHeaderLength drafts
    ++ descriptorWrites base drafts.length (usedLength blockHeaderLength drafts)
    ++ [(base + statusOffset, Bytes.ofNatLE 4 userBit.toNat)]

theorem fill_eq {blockSize index : Nat} (region : Region)
    (halign : (index * blockSize + statusOffset) % 4 = 0) (drafts : List Draft) :
    fill region blockSize index drafts
      = region.writeEach? (blockWrites (index * blockSize) drafts) := by
  simp only [fill, blockWrites, Region.writeEach?_append, Region.writeEach?,
    Region.storeStatus_eq_write halign, Option.bind_eq_bind, Option.bind_fun_some]

theorem bounds_of_mem_blockWrites (hsize : blockHeaderLength ≤ size)
    (hfits : Fits size blockHeaderLength drafts) (h : w ∈ blockWrites base drafts) :
    base ≤ w.1 ∧ w.1 + w.2.length ≤ base + size := by
  simp only [blockHeaderLength] at hsize
  rcases List.mem_append.mp h with h | h
  · rcases List.mem_append.mp h with h | h
    · have := le_of_mem_recordWrites h
      exact ⟨by omega, end_le_of_mem_recordWrites hfits h⟩
    · simp only [descriptorWrites, List.mem_cons, List.not_mem_nil, or_false] at h
      rcases h with rfl | rfl | rfl | rfl | rfl <;> simp <;> omega
  · simp only [List.mem_singleton] at h
    subst h
    simp [statusOffset]
    omega

/-- The descriptor comes before all records, and its fields are apart. -/
theorem pairwise_blockWrites (base : Nat) (drafts : List Draft) :
    (blockWrites base drafts).Pairwise Apart := by
  have hrecords : ∀ v ∈ recordWrites base blockHeaderLength drafts, ∀ w : Nat × Bytes,
      w.1 + w.2.length ≤ base + 48 → Apart v w := by
    intro v hv w hw
    have := le_of_mem_recordWrites hv
    simp only [blockHeaderLength] at this
    right
    omega
  unfold blockWrites
  rw [List.append_assoc]
  apply List.pairwise_append.mpr
  refine ⟨pairwise_recordWrites _ _ _, ?_, ?_⟩
  · simp [descriptorWrites, Apart, statusOffset]
  · intro v hv w hw
    apply hrecords v hv
    simp only [descriptorWrites, List.cons_append, List.nil_append, List.mem_cons, List.not_mem_nil,
      or_false] at hw
    rcases hw with rfl | rfl | rfl | rfl | rfl | rfl <;> simp [statusOffset]

/-! ## Reading back -/

variable {b : Block} {d : Draft} {last : Bool}

/-- What lies where a record was written: its header, and behind the gap its octets. -/
theorem headerAt_of_shows (hshows : ∀ w ∈ d.writes (b.start + offset) last, b.region.Shows w) :
    b.headerAt offset = d.header last
      ∧ b.octets (offset + Draft.payloadOffset) d.payload.length = d.payload := by
  constructor
  · apply RecordHeader.ofBytes_span
    intro w hw
    exact hshows w (List.mem_append_left _ hw)
  · have hpayload := hshows (b.start + offset + Draft.payloadOffset, d.payload)
      (List.mem_append_right _ (List.mem_singleton_self _))
    rwa [Shows, Nat.add_assoc] at hpayload

/-- A draft that claims nothing false becomes a valid record, and its distance is that to the next
one. -/
theorem valid_of_shows (hplain : d.Plain) (hoffset : 48 ≤ offset)
    (hend : offset + 64 + d.payload.length ≤ b.size)
    (hshows : ∀ w ∈ d.writes (b.start + offset) last, b.region.Shows w) :
    b.Valid offset ∧ b.described offset = d.record
      ∧ b.distance offset = if last then 0 else d.stride := by
  obtain ⟨hheader, hpayload⟩ := headerAt_of_shows hshows
  have hpos := hplain.nonempty
  have hmax := hplain.length_le
  have hstride := d.length_le_stride
  have hlength : (d.header last).snapLength.toNat = d.payload.length := by
    simp only [Draft.header, hplain.snapLength, Option.getD_none, UInt32.toNat_ofNat']
    omega
  have hmac : (d.header last).macOffset.toNat = 64 := rfl
  refine ⟨⟨hoffset, ?_, ?_, ?_, ?_, ?_⟩, ?_, ?_⟩
  · omega
  · rwa [hheader, hlength]
  · rwa [hheader, hlength]
  · rw [hheader, hmac]
    omega
  · rwa [hheader, hmac, hlength]
  · unfold Block.described
    dsimp only
    rw [hheader, hlength, hmac]
    exact congrArg (Record.mk · _) hpayload
  · rw [Block.distance, hheader]
    simp only [Draft.header, hplain.nextOffset, Option.getD_none]
    cases last
    · simp
      omega
    · rfl

/-- A walk over records that were written one behind the other hands on as many of them as it
counts. -/
theorem walkFrom_of_shows {count : Nat} (hb : b.Inside) (hplain : ∀ d ∈ drafts, d.Plain)
    (hoffset : 48 ≤ offset) (hfits : Fits b.size offset drafts) (hcount : count ≤ drafts.length)
    (hshows : ∀ w ∈ recordWrites b.start offset drafts, b.region.Shows w) :
    b.walkFrom count offset = ⟨(drafts.take count).map Draft.record, none⟩ := by
  -- The induction is on the records, and the walk takes one step for each.
  induction drafts generalizing count offset with
  | nil =>
    rw [Nat.le_zero.mp hcount]
    rfl
  | cons d drafts ih =>
    by_cases hzero : count = 0
    · subst hzero
      rfl
    obtain ⟨count, rfl⟩ := Nat.exists_eq_succ_of_ne_zero hzero
    obtain ⟨hfirst, hrest⟩ := hfits
    have hstride := d.length_le_stride
    have hfirst_shows : ∀ w ∈ d.writes (b.start + offset) drafts.isEmpty, b.region.Shows w := by
      intro w hw
      exact hshows w (List.mem_append_left _ hw)
    obtain ⟨hvalid, hdescribed, hdistance⟩ :=
      valid_of_shows (hplain d (List.mem_cons_self ..)) hoffset hfirst hfirst_shows
    -- The last record names no next one; from any other the walk goes on a stride further.
    by_cases hlast : drafts = []
    · subst hlast
      have hnone : count = 0 := by simpa using hcount
      subst hnone
      rw [hb.walkFrom_of_last 0 hvalid hdistance, hdescribed]
      rfl
    · have hfar : b.distance offset = d.stride := by
        rw [hdistance, if_neg (by simpa using hlast)]
      rw [hb.walkFrom_of_far count hvalid (by omega), hdescribed, hfar,
        ih (fun d hd => hplain d (List.mem_cons_of_mem _ hd)) (by omega) hrest
          (by simpa using hcount) (fun w hw => hshows w (List.mem_append_right _ hw))]
      rfl

/-- A record takes up at least 80 octets, of which the last one may leave out the gap behind it. -/
theorem Fits.room (hfits : Fits size offset drafts) (hplain : ∀ d ∈ drafts, d.Plain)
    (hoffset : offset ≤ size + 15) : offset + 80 * drafts.length ≤ size + 15 := by
  induction drafts generalizing offset with
  | nil => simpa using hoffset
  | cons d drafts ih =>
    obtain ⟨hfirst, hrest⟩ := hfits
    have hpos := (hplain d (List.mem_cons_self ..)).nonempty
    have hstride : 80 ≤ d.stride ∧ d.stride ≤ 79 + d.payload.length := by
      simp only [Draft.stride, Draft.payloadOffset, recordHeaderLength]
      omega
    simp only [Draft.payloadOffset, recordHeaderLength] at hfirst
    have := ih hrest (fun d hd => hplain d (List.mem_cons_of_mem _ hd)) (by omega)
    rw [List.length_cons]
    omega

/-- The walk of a block that was filled hands on as many records as its descriptor counts. -/
theorem walk_of_shows (hb : b.Inside) (hplain : ∀ d ∈ drafts, d.Plain)
    (hfits : Fits b.size blockHeaderLength drafts)
    (hshows : ∀ w ∈ blockWrites b.start drafts, b.region.Shows w) :
    b.walk = ⟨(drafts.take (drafts.length % 4294967296)).map Draft.record, none⟩ := by
  have hfield : ∀ k n, k + 4 ≤ blockHeaderLength →
      (b.start + k, Bytes.ofNatLE 4 n) ∈ blockWrites b.start drafts →
      Bytes.le32 (b.octets 0 blockHeaderLength) k = UInt32.ofNat n :=
    fun k n hk hmem => (hshows _ hmem).le32_span hk
  have hcount : (BlockHeader.ofBytes (b.octets 0 blockHeaderLength)).packetCount
      = UInt32.ofNat drafts.length := by
    apply hfield 12 _ (by decide)
    simp [blockWrites, descriptorWrites]
  have hfirst : (BlockHeader.ofBytes (b.octets 0 blockHeaderLength)).firstOffset
      = UInt32.ofNat blockHeaderLength := by
    apply hfield 16 _ (by decide)
    simp [blockWrites, descriptorWrites]
  rw [Block.walk, hb.header?]
  dsimp only
  rw [hcount, hfirst, UInt32.toNat_ofNat']
  -- The count is the number of the records or, where it wraps, less.
  apply walkFrom_of_shows hb hplain (by decide) hfits
  · exact Nat.mod_le _ _
  · intro w hw
    exact hshows w (List.mem_append_left _ (List.mem_append_left _ hw))

/-! ## Looks -/

variable {r : Ring} {index : Nat} {filled : Region}

/-- Records that fit can be written, all of what is written can be read afterwards, and nothing
outside the block was touched. -/
theorem WellFormed.exists_fill (hw : r.WellFormed) (hindex : index < r.blockCount)
    (hfits : Fits r.blockSize blockHeaderLength drafts) :
    ∃ filled, fill r.region r.blockSize index drafts = some filled
      ∧ filled.size = r.region.size
      ∧ (∀ w ∈ blockWrites (index * r.blockSize) drafts, filled.Shows w)
      ∧ ∀ address, address < index * r.blockSize ∨ index * r.blockSize + r.blockSize ≤ address →
          filled.byte address = r.region.byte address := by
  have hend := block_end_le hindex
  have hspace := hw.space
  have hroom := hw.room
  have hsize : blockHeaderLength ≤ r.blockSize := Nat.le_trans (by decide) hw.page_le
  have hbounds : ∀ w ∈ blockWrites (index * r.blockSize) drafts,
      index * r.blockSize ≤ w.1 ∧ w.1 + w.2.length ≤ index * r.blockSize + r.blockSize :=
    fun w h => bounds_of_mem_blockWrites hsize hfits h
  have hholds : ∀ w ∈ blockWrites (index * r.blockSize) drafts, r.region.Holds w.1 w.2.length := by
    intro w h
    obtain ⟨-, hle⟩ := hbounds w h
    exact ⟨by omega, by omega⟩
  obtain ⟨filled, hfilled, hlength⟩ := Region.exists_writeEach? hholds
  refine ⟨filled, ?_, hlength, Region.shows_of_writeEach? hfilled (pairwise_blockWrites _ _), ?_⟩
  · rw [fill_eq r.region (hw.holdsStatus hindex).1, hfilled]
  · intro address hout
    apply Region.byte_of_writeEach? hfilled
    intro w h
    have := hbounds w h
    omega

/-- A block whose status word was written is the consumer's. -/
theorem WellFormed.ready_of_shows (hw : r.WellFormed) (hindex : index < r.blockCount)
    (hshows : ∀ w ∈ blockWrites (index * r.blockSize) drafts, r.region.Shows w) :
    r.ready index = true := by
  have hstatus : r.region.span (r.statusAddress index) 4 = Bytes.ofNatLE 4 userBit.toNat :=
    hshows (index * r.blockSize + statusOffset, Bytes.ofNatLE 4 userBit.toNat)
      (List.mem_append_right _ (List.mem_singleton_self _))
  rw [ready, Region.loadStatus_of_holds (hw.holdsStatus hindex), hstatus]
  rfl

/-- The status word of a block that was given back says that the producer owns it. -/
theorem WellFormed.loadStatus_released (hw : r.WellFormed) :
    r.released.region.loadStatus (r.statusAddress r.cursor) = some kernelOwned := by
  have hzero : r.released.region.span (r.statusAddress r.cursor) 4 = [0, 0, 0, 0] := by
    simp [Region.span, released_byte, List.range_succ]
  have hholds : r.released.region.HoldsStatus (r.statusAddress r.cursor) :=
    hw.holdsStatus hw.cursor_lt
  rw [Region.loadStatus_of_holds hholds, hzero]
  rfl

/-- A look at a block that was filled hands on as many of the records as the descriptor counts, and
gives the block back. -/
theorem WellFormed.process_filled (hw : r.WellFormed) (hopen : r.closed = false)
    (hplain : ∀ d ∈ drafts, d.Plain) (hfits : Fits r.blockSize blockHeaderLength drafts)
    (hlength : filled.size = r.region.size)
    (hshows : ∀ w ∈ blockWrites (r.cursor * r.blockSize) drafts, filled.Shows w) :
    let step := { r with region := filled }.process
    step.result = .ok (some (drafts.length % 4294967296))
      ∧ step.records = (drafts.take (drafts.length % 4294967296)).map Draft.record
      ∧ step.ring.ready r.cursor = false
      ∧ step.ring.region.loadStatus (r.statusAddress r.cursor) = some kernelOwned := by
  intro step
  -- Filling changes the content of the memory and not the shape of the ring.
  have hw' : WellFormed { r with region := filled } :=
    ⟨hw.page, hw.size_pos, hw.space, Nat.le_trans hw.room (Nat.le_of_eq hlength.symm),
      hw.cursor_lt⟩
  have hready : Ring.ready { r with region := filled } r.cursor = true :=
    hw'.ready_of_shows hw.cursor_lt hshows
  have hwalk := walk_of_shows (hw'.inside hw.cursor_lt) hplain hfits hshows
  have hstep := hw'.process_of_ready hopen hready
  have hle := Nat.mod_le drafts.length 4294967296
  simp only [step, hstep]
  rw [hwalk]
  refine ⟨?_, rfl, hw'.ready_released_cursor, hw'.loadStatus_released⟩
  simp only [Walk.outcome, List.length_map, List.length_take, Nat.min_eq_left hle]

/-- **What is filled in is what a look hands on.** Take a ring that was created over any memory and
used in any way, a block of it, and records of 1 to 65536 octets that all end inside a block. They
can be written into the block, whatever lay there, and the writes touch no other octet. A look at
the block, once it is at the cursor, hands on exactly these records in their order and reports their
number; afterwards the block is the producer's again. The descriptor counts in 32 bits. No block of
up to 320 GiB has room for more records than that; in a larger one they would be counted modulo
2^32, and as many be handed on. -/
theorem process_of_fill {region : Region} {blockSize blockCount : Nat} {ring : Ring}
    (hring : create region blockSize blockCount = .ok ring) (events : List Event)
    (hindex : index < blockCount) (hplain : ∀ d ∈ drafts, d.Plain)
    (hfits : Fits blockSize 48 drafts) :
    let r := ring.run events
    ∃ filled, fill r.region blockSize index drafts = some filled
      ∧ filled.size = r.region.size
      ∧ (∀ address, address < index * blockSize ∨ index * blockSize + blockSize ≤ address →
          filled.byte address = r.region.byte address)
      ∧ (r.closed = false → r.cursor = index →
          let step := { r with region := filled }.process
          (drafts.length < 4294967296 →
              step.result = .ok (some drafts.length) ∧ step.records = drafts.map Draft.record)
            ∧ (4294967296 ≤ drafts.length →
              step.result = .ok (some (drafts.length % 4294967296))
                ∧ step.records = (drafts.take (drafts.length % 4294967296)).map Draft.record)
            ∧ step.ring.ready index = false
            ∧ step.ring.region.loadStatus (index * blockSize + 8) = some kernelOwned)
      ∧ (blockSize ≤ 343597383680 → drafts.length < 4294967296) := by
  intro r
  obtain ⟨hw, hsize, hcount⟩ := run_of_create hring events
  change r.WellFormed at hw
  change r.blockSize = blockSize at hsize
  change r.blockCount = blockCount at hcount
  subst hsize hcount
  obtain ⟨filled, hfill, hlength, hshows, hframe⟩ := hw.exists_fill hindex hfits
  refine ⟨filled, hfill, hlength, hframe, ?_, ?_⟩
  · intro hopen hcursor step
    subst hcursor
    obtain ⟨hresult, hrecords, hback, hstatus⟩ :=
      hw.process_filled hopen hplain hfits hlength hshows
    refine ⟨?_, fun _ => ⟨hresult, hrecords⟩, hback, hstatus⟩
    intro hfew
    rw [Nat.mod_eq_of_lt hfew] at hresult hrecords
    rw [List.take_length] at hrecords
    exact ⟨hresult, hrecords⟩
  · intro hsmall
    have hpage := hw.page_le
    simp only [pageSize] at hpage
    have := hfits.room hplain (by omega)
    omega

/-- Two records in the second block of a ring, over what somebody left there. The nanoseconds of the
second one are more than a second. -/
theorem process_of_fill_stale :
    let ring : Ring := ⟨Region.zeroed 8192, 4096, 2, 0, false⟩
    let r := ring.run [.write 4144 (List.replicate 200 255), .setStatus 8 1, .process]
    let drafts := [Draft.packet [1, 2, 3] 5 6, Draft.packet [4] 7 2000000001]
    create (Region.zeroed 8192) 4096 2 = .ok ring
      ∧ ((∀ d ∈ drafts, d.Plain) ∧ Fits 4096 48 drafts ∧ r.closed = false ∧ r.cursor = 1)
      ∧ ∃ filled, fill r.region 4096 1 drafts = some filled
        ∧ { r with region := filled }.process.result = .ok (some 2)
        ∧ { r with region := filled }.process.records
            = [⟨[1, 2, 3], ⟨5, 6⟩⟩, ⟨[4], ⟨9, 1⟩⟩] := by
  intro ring r drafts
  have hring : create (Region.zeroed 8192) 4096 2 = .ok ring := rfl
  have hplain : ∀ d ∈ drafts, d.Plain := by
    intro d hd
    simp only [drafts, List.mem_cons, List.not_mem_nil, or_false] at hd
    rcases hd with rfl | rfl <;> exact ⟨rfl, rfl, by decide, by decide⟩
  have hfits : Fits 4096 48 drafts := by decide
  have hcursor : r.cursor = 1 := by decide +kernel
  have hopen : r.closed = false := by decide +kernel
  obtain ⟨filled, hfill, -, -, hlook, -⟩ := process_of_fill hring _ Nat.one_lt_two hplain hfits
  obtain ⟨hwalked, -⟩ := hlook hopen hcursor
  obtain ⟨hresult, hrecords⟩ := hwalked (by decide)
  exact ⟨hring, ⟨hplain, hfits, hopen, hcursor⟩, filled, hfill, hresult, hrecords⟩

/-! ### More records than can be counted -/

/-- Equal records fit if there is room for that many strides. -/
theorem fits_replicate {d : Draft} {n : Nat} (h : offset + d.stride * n ≤ size) :
    Fits size offset (List.replicate n d) := by
  induction n generalizing offset with
  | zero => trivial
  | succ n ih =>
    have hstride := d.length_le_stride
    rw [Nat.mul_succ] at h
    refine ⟨?_, ih (by omega)⟩
    simp only [Draft.payloadOffset, recordHeaderLength]
    omega

/-- As many records of one octet as make a 32-bit count begin again at zero. -/
def crowd : List Draft := List.replicate 4294967296 (Draft.packet [0] 0 0)

theorem length_crowd : crowd.length = 4294967296 := List.length_replicate

theorem plain_of_mem_crowd (h : d ∈ crowd) : d.Plain := by
  rw [List.eq_of_mem_replicate h]
  exact ⟨rfl, rfl, by decide, by decide⟩

/-- **Filling and looking is not always the identity.** A block of a little more than 320 GiB holds
2^32 records, of which a look hands on none and reports none. And a block that is filled after the
ring was closed is not looked at any more. -/
theorem filled_not_handed_on :
    (let size := 343597387776
      let ring : Ring := ⟨Region.zeroed size, size, 1, 0, false⟩
      create (Region.zeroed size) size 1 = .ok ring
        ∧ ((∀ d ∈ crowd, d.Plain) ∧ Fits size 48 crowd ∧ crowd.length = 4294967296)
        ∧ ∃ filled, fill ring.region size 0 crowd = some filled
          ∧ { ring with region := filled }.process.result = .ok (some 0)
          ∧ { ring with region := filled }.process.records = [])
      ∧ let ring : Ring := ⟨Region.zeroed 4096, 4096, 1, 0, false⟩
        let drafts := [Draft.packet [1, 2, 3] 5 6]
        create (Region.zeroed 4096) 4096 1 = .ok ring
          ∧ ((∀ d ∈ drafts, d.Plain) ∧ Fits 4096 48 drafts)
          ∧ ∃ filled, fill ring.close.region 4096 0 drafts = some filled
            ∧ { ring.close with region := filled }.process.result = .error .ringClosed := by
  constructor
  · intro size ring
    have hring : create (Region.zeroed size) size 1 = .ok ring :=
      create_eq_ok_iff.mpr ⟨⟨by decide, by decide, by decide, by decide⟩, by decide, rfl⟩
    have hw : ring.WellFormed := (create_eq_ok hring).2
    have hplain : ∀ d ∈ crowd, d.Plain := fun d hd => plain_of_mem_crowd hd
    have hfits : Fits size 48 crowd := fits_replicate (by decide)
    obtain ⟨filled, hfill, hlength, hshows, -⟩ := hw.exists_fill Nat.one_pos hfits
    obtain ⟨hresult, hrecords, -⟩ := hw.process_filled rfl hplain hfits hlength hshows
    rw [length_crowd, Nat.mod_self] at hresult hrecords
    exact ⟨hring, ⟨hplain, hfits, length_crowd⟩, filled, hfill, hresult, hrecords⟩
  · intro ring drafts
    have hring : create (Region.zeroed 4096) 4096 1 = .ok ring := rfl
    have hw : ring.WellFormed := (create_eq_ok hring).2
    have hplain : ∀ d ∈ drafts, d.Plain := by
      intro d hd
      rw [List.mem_singleton.mp hd]
      exact ⟨rfl, rfl, by decide, by decide⟩
    have hfits : Fits 4096 48 drafts := by decide
    obtain ⟨filled, hfill, -⟩ := hw.exists_fill Nat.one_pos hfits
    refine ⟨hring, ⟨hplain, hfits⟩, filled, hfill, ?_⟩
    rw [process_of_closed rfl]

end Ring

end LinkTap
