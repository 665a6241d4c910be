/-
Memory under any use.

A region is used through five calls, with any offsets and lengths. Some write octets or a status
word, and their spans lie over one another as they please. Some read: a status word, a span copied
into a buffer, or a span lent to a visitor, who may look at the region meanwhile. A call is refused
exactly if its span leaves the region or the address space, or is that of a status word and not
aligned. So whether a call succeeds is told by the call and the length of the region, and never by
what was written before.

That settles what the memory holds. At each address it is what the last successful call put there
that wrote over this address, and zero if none did. Everything that is read is read from these
octets.

The five calls come down to two by what they do to the region: those that put octets into their
span, and those that leave it alone. One equation tells what either kind does and answers, and
nothing opens the calls after it.
-/
import LinkTap.Proofs.Bytes
import LinkTap.Proofs.LastWritten
import LinkTap.Proofs.Region

set_option autoImplicit false

namespace LinkTap.Region

/-! ## Calls -/

/-- A call on a region. -/
inductive Call (σ : Type) where
  | write (offset : Nat) (data : Bytes)
  | storeStatus (offset : Nat) (value : UInt32)
  | loadStatus (offset : Nat)
  /-- Fill a buffer from the octets that begin at an offset. -/
  | readInto (offset : Nat) (buffer : Bytes)
  /-- Lend a span to a visitor. The visitor looks at the region while it has the octets. -/
  | withSlice (offset length : Nat) (visit : Region → Bytes → σ)

/-- What a call comes back with. -/
inductive Answer (σ : Type) where
  | done (succeeded : Bool)
  | status (word? : Option UInt32)
  /-- The buffer as it is afterwards. -/
  | buffer (octets : Bytes) (succeeded : Bool)
  /-- What the visitor saw, if it was called. -/
  | seen (what? : Option σ)

variable {σ : Type}

def Answer.succeeded : Answer σ → Bool
  | done succeeded => succeeded
  | status word? => word?.isSome
  | buffer _ succeeded => succeeded
  | seen what? => what?.isSome

/-- Carry out a call. -/
def perform (r : Region) : Call σ → Region × Answer σ
  | .write offset data =>
    match r.write offset data with
    | some written => (written, .done true)
    | none => (r, .done false)
  | .storeStatus offset value =>
    match r.storeStatus offset value with
    | some written => (written, .done true)
    | none => (r, .done false)
  | .loadStatus offset => (r, .status (r.loadStatus offset))
  | .readInto offset buffer =>
    match r.read offset buffer.length with
    | some octets => (r, .buffer octets true)
    | none => (r, .buffer buffer false)
  | .withSlice offset length visit => (r, .seen ((r.read offset length).map (visit r)))

/-- The region after a list of calls. -/
def after (r : Region) (calls : List (Call σ)) : Region :=
  calls.foldl (fun r c => (r.perform c).1) r

namespace Call

/-! ## Spans -/

/-- The first octet that a call is about. -/
def offset : Call σ → Nat
  | write offset _ => offset
  | storeStatus offset _ => offset
  | loadStatus offset => offset
  | readInto offset _ => offset
  | withSlice offset _ _ => offset

/-- How many octets a call is about. -/
def length : Call σ → Nat
  | write _ data => data.length
  | storeStatus _ _ => 4
  | loadStatus _ => 4
  | readInto _ buffer => buffer.length
  | withSlice _ length _ => length

def isStatus : Call σ → Bool
  | storeStatus _ _ => true
  | loadStatus _ => true
  | _ => false

/-- The octets that a call puts into its span. -/
def data? : Call σ → Option Bytes
  | write _ data => some data
  | storeStatus _ value => some (Bytes.ofNatLE 4 value.toNat)
  | _ => none

/-- The span of a call ends inside a region of the given length without wrapping around, and a
status word is aligned. -/
def Fits (size : Nat) (c : Call σ) : Prop :=
  c.offset + c.length < addressSpace ∧ c.offset + c.length ≤ size
    ∧ (c.isStatus = true → c.offset % 4 = 0)

instance (size : Nat) (c : Call σ) : Decidable (c.Fits size) := inferInstanceAs (Decidable (_ ∧ _))

/-- What a call puts at an address of a region of the given length, if it succeeds and writes there.
-/
def puts? (size address : Nat) (c : Call σ) : Option UInt8 :=
  if c.Fits size ∧ c.offset ≤ address then c.data?.bind fun data => data[address - c.offset]?
  else none

/-- The answer of a call that succeeds on a region. -/
def success (r : Region) : Call σ → Answer σ
  | write _ _ => .done true
  | storeStatus _ _ => .done true
  | loadStatus offset => .status (some (Bytes.le32 (r.span offset 4) 0))
  | readInto offset buffer => .buffer (r.span offset buffer.length) true
  | withSlice offset length visit => .seen (some (visit r (r.span offset length)))

/-- The answer of a call that is refused. A buffer keeps its octets, and a visitor is not called. -/
def refusal : Call σ → Answer σ
  | write _ _ => .done false
  | storeStatus _ _ => .done false
  | loadStatus _ => .status none
  | readInto _ buffer => .buffer buffer false
  | withSlice _ _ _ => .seen none

variable {r : Region} {c : Call σ} {data : Bytes}

theorem length_of_data? (h : c.data? = some data) : c.length = data.length := by
  cases c with
  | write offset bytes =>
    rw [← Option.some.inj h]
    rfl
  | storeStatus offset value =>
    rw [← Option.some.inj h, Bytes.length_ofNatLE]
    rfl
  | loadStatus | readInto | withSlice => cases h

theorem fits_of_octets (h : c.isStatus = false) : c.Fits r.size ↔ r.Holds c.offset c.length := by
  simp [Fits, Holds, h]

theorem fits_of_status (h : c.isStatus = true) :
    c.Fits r.size ↔ c.offset % 4 = 0 ∧ r.Holds c.offset c.length := by
  unfold Fits Holds
  constructor
  · rintro ⟨hspace, hinside, halign⟩
    exact ⟨halign h, hspace, hinside⟩
  · rintro ⟨halign, hspace, hinside⟩
    exact ⟨hspace, hinside, fun _ => halign⟩

end Call

/-! ## What a call does -/

/-- The region with the octets of a call laid over its span. -/
def overlaid (r : Region) (c : Call σ) : Region :=
  match c.data? with
  | some data => { r with byte := overlay r.byte c.offset data.toArray }
  | none => r

/-- A call either does and answers what it should, or it is refused. -/
theorem perform_eq (r : Region) (c : Call σ) :
    r.perform c = if c.Fits r.size then (r.overlaid c, c.success r) else (r, c.refusal) := by
  -- Each call tests its span in its own words, with the
  -- alignment before the bounds where there is one.
  cases c with
  | write offset data =>
    have hfits := Call.fits_of_octets (r := r) (c := (.write offset data : Call σ)) rfl
    by_cases h : r.Holds offset data.length
    · rw [if_pos (hfits.mpr h), perform, write, if_pos h]
      rfl
    · rw [if_neg (mt hfits.mp h), perform, write, if_neg h]
      rfl
  | storeStatus offset value =>
    have hfits := Call.fits_of_status (r := r) (c := (.storeStatus offset value : Call σ)) rfl
    by_cases h : r.HoldsStatus offset
    · rw [if_pos (hfits.mpr h), perform, storeStatus_of_holds h]
      rfl
    · rw [if_neg (mt hfits.mp h), perform, storeStatus, if_neg h]
      rfl
  | loadStatus offset =>
    have hfits := Call.fits_of_status (r := r) (c := (.loadStatus offset : Call σ)) rfl
    by_cases h : r.HoldsStatus offset
    · rw [if_pos (hfits.mpr h), perform, loadStatus_of_holds h]
      rfl
    · rw [if_neg (mt hfits.mp h), perform, loadStatus, if_neg h]
      rfl
  | readInto offset buffer =>
    have hfits := Call.fits_of_octets (r := r) (c := (.readInto offset buffer : Call σ)) rfl
    by_cases h : r.Holds offset buffer.length
    · rw [if_pos (hfits.mpr h), perform, read_of_holds h]
      rfl
    · rw [if_neg (mt hfits.mp h), perform, read, if_neg h]
      rfl
  | withSlice offset length visit =>
    have hfits := Call.fits_of_octets (r := r) (c := (.withSlice offset length visit : Call σ)) rfl
    by_cases h : r.Holds offset length
    · rw [if_pos (hfits.mpr h), perform, read_of_holds h]
      rfl
    · rw [if_neg (mt hfits.mp h), perform, read, if_neg h]
      rfl

/-! ## Runs -/

variable {r : Region} {c : Call σ} {data : Bytes}

theorem Call.succeeded_success (r : Region) (c : Call σ) : (c.success r).succeeded = true := by
  cases c <;> rfl

theorem Call.succeeded_refusal (c : Call σ) : c.refusal.succeeded = false := by
  cases c <;> rfl

/-- A call succeeds exactly if its octets lie in the memory, whatever they are. -/
theorem succeeded_perform_iff (r : Region) (c : Call σ) :
    (r.perform c).2.succeeded = true ↔ c.Fits r.size := by
  rw [perform_eq]
  by_cases h : c.Fits r.size
  · simp [h, Call.succeeded_success]
  · simp [h, Call.succeeded_refusal]

theorem overlaid_of_data? (h : c.data? = some data) :
    r.overlaid c = { r with byte := overlay r.byte c.offset data.toArray } := by
  rw [overlaid, h]

theorem size_perform (r : Region) (c : Call σ) : (r.perform c).1.size = r.size := by
  rw [perform_eq]
  split
  · unfold overlaid
    split <;> rfl
  · rfl

/-- What one call does to an address. -/
theorem byte_perform (r : Region) (c : Call σ) (address : Nat) :
    (r.perform c).1.byte address = (c.puts? r.size address).getD (r.byte address) := by
  rw [perform_eq]
  by_cases hfits : c.Fits r.size
  · rw [if_pos hfits]
    -- Both sides ask whether the address is behind the beginning and whether the data reach so far.
    cases hdata : c.data? with
    | none => simp [overlaid, Call.puts?, hdata]
    | some data =>
      rw [overlaid_of_data? hdata]
      by_cases hbehind : c.offset ≤ address
      · simp [overlay, Call.puts?, hdata, hfits, hbehind]
      · simp [overlay, Call.puts?, hbehind]
  · simp [Call.puts?, hfits]

/-- No call changes the length, so it is always the same calls that fit. -/
theorem size_after (r : Region) (calls : List (Call σ)) : (r.after calls).size = r.size := by
  unfold after
  induction calls generalizing r with
  | nil => rfl
  | cons c calls ih => rw [List.foldl_cons, ih, size_perform]

/-- The last call that put something at an address decides what is there. -/
theorem byte_after (r : Region) (calls : List (Call σ)) (address : Nat) :
    (r.after calls).byte address
      = (calls.filterMap (Call.puts? r.size address)).getLast?.getD (r.byte address) := by
  refine foldl_last_written (fun s : Region => s.byte address)
    (fun s => s.size = r.size) ?_ ?_ calls rfl
  · intro s c hsize
    exact (size_perform s c).trans hsize
  · intro s c hsize
    rw [byte_perform, hsize]

/-! ## What memory holds -/

/-- **Memory holds what was written last.** Take memory of any length, zeroed at first, and any
calls on it. Its length stays, and at every address is the octet that the last successful call over
it put there. A further call succeeds exactly if its span ends inside without wrapping around and,
for a status word, begins at a multiple of four. A call that is refused changes nothing, neither in
the memory nor in a buffer, and calls no visitor. A call that writes leaves its octets in its span
and all other octets as they were; a call that reads leaves all of them. A buffer is filled with the
octets that a visitor of the same span gets, and these are the current ones. A status word is the
number that its four current octets spell, the least significant one first, and a visitor of any
other span reads the same word while it has the octets. -/
theorem keeps_last_written (size : Nat) (calls : List (Call σ)) :
    let r := (zeroed size).after calls
    r.size = size
      ∧ (∀ address, r.byte address = (calls.filterMap (Call.puts? size address)).getLast?.getD 0)
      ∧ (∀ c : Call σ, (r.perform c).2.succeeded = true ↔ c.Fits size)
      ∧ (∀ c : Call σ, ¬ c.Fits size → r.perform c = (r, c.refusal))
      ∧ (∀ (c : Call σ) (data : Bytes), c.Fits size → c.data? = some data →
          (r.perform c).1.span c.offset c.length = data
            ∧ ∀ address, address < c.offset ∨ c.offset + c.length ≤ address →
              (r.perform c).1.byte address = r.byte address)
      ∧ (∀ c : Call σ, c.data? = none → (r.perform c).1 = r)
      ∧ (∀ (offset : Nat) (buffer : Bytes) (visit : Region → Bytes → σ),
          (Call.readInto offset buffer : Call σ).Fits size →
            (r.perform (.readInto offset buffer : Call σ)).2
                = .buffer (r.span offset buffer.length) true
              ∧ (r.perform (.withSlice offset buffer.length visit)).2
                = .seen (some (visit r (r.span offset buffer.length))))
      ∧ ∀ offset : Nat, (Call.loadStatus offset : Call σ).Fits size → ∃ word : UInt32,
          (r.perform (.loadStatus offset : Call σ)).2 = .status (some word)
            ∧ word.toNat = (r.byte offset).toNat + 256 * (r.byte (offset + 1)).toNat
              + 65536 * (r.byte (offset + 2)).toNat + 16777216 * (r.byte (offset + 3)).toNat
            ∧ ∀ start length : Nat,
              let lookInside : Call (Option UInt32) :=
                .withSlice start length fun region _ => region.loadStatus offset
              lookInside.Fits size → (r.perform lookInside).2 = .seen (some (some word)) := by
  intro r
  have hsize : r.size = size := size_after _ calls
  have hbyte : ∀ address, r.byte address
      = (calls.filterMap (Call.puts? size address)).getLast?.getD 0 :=
    byte_after (zeroed size) calls
  have hfit : ∀ {c : Call σ}, c.Fits size → r.perform c = (r.overlaid c, c.success r) := by
    intro c hc
    rw [perform_eq, if_pos (hsize ▸ hc)]
  -- From here on only this further call is looked at, and the calls before it are behind `r`.
  refine ⟨hsize, hbyte, ?_, ?_, ?_, ?_, ?_, ?_⟩
  · intro c
    rw [succeeded_perform_iff, hsize]
  · intro c hc
    rw [perform_eq, if_neg (hsize ▸ hc)]
  · intro c data hc hdata
    rw [hfit hc, overlaid_of_data? hdata, Call.length_of_data? hdata]
    refine ⟨span_overlay r c.offset data, ?_⟩
    intro address hout
    exact overlay_of_outside r.byte (by simpa using hout)
  · intro c hdata
    rw [perform_eq, overlaid, hdata]
    split <;> rfl
  · intro offset buffer visit hc
    have hlent : (Call.withSlice offset buffer.length visit).Fits size := hc
    rw [hfit hc, hfit hlent]
    exact ⟨rfl, rfl⟩
  · intro offset hc
    refine ⟨_, by rw [hfit hc]; rfl, toNat_le32_span r offset, ?_⟩
    -- The visitor is lent the region as it is, so what it reads is what is read outside.
    intro start length lookInside hinside
    have hfits := Call.fits_of_status (r := r) (c := (.loadStatus offset : Call σ)) rfl
    have hstatus : r.HoldsStatus offset := hfits.mp (hsize ▸ hc)
    rw [perform_eq, if_pos (hsize ▸ hinside)]
    exact congrArg (fun word? => Answer.seen (some word?)) (loadStatus_of_holds hstatus)

end LinkTap.Region
