/-
How large a ring the settings of a run ask for.

A run is told how much memory its ring may take, a session how many blocks of which size it has.
Without a block count the run divides the one by the other, and there are two ways in which that
could go wrong: the block size might be zero, and a block might be larger than the memory. Both are
met by a floor of one, under the divisor and under the quotient. So the division always has an
answer, and the ring is the largest one that keeps to the memory, or a single block where no block
does.

Settings are checked twice, by different rules. The run checks ranges and knows nothing of pages;
the session checks the shape of the ring and knows nothing of ranges. After the first check little
is left for the second one to refuse. A derived ring is no longer than a block or than the memory
allows, which both are words, so only the pages can be wrong. A given block count adds the product
to that.
-/
import LinkTap.Config
import LinkTap.Proofs.Refusal
import LinkTap.Proofs.Ring.Geometry

set_option autoImplicit false

namespace LinkTap

namespace Config

variable {c : Config}

/-! ## Ranges -/

/-- Every setting is inside its range. -/
structure InRange (c : Config) : Prop where
  interface : c.interface.isEmpty = false
  snapLength : minSnapLength ≤ c.snapLength ∧ c.snapLength ≤ maxSnapLength
  timeout : c.timeout ≠ 0
  bufferSize : minBufferSize ≤ c.bufferSize ∧ c.bufferSize ≤ maxBufferSize
  ringBlockSize : c.ringBlockSize ≠ 0
  ringBlockCount : c.ringBlockCount ≠ some 0
  channelBufferSize : c.channelBufferSize ≠ 0
  statsInterval : c.statsInterval ≠ 0
  logLevel : Line.toLower c.logLevel ∈ logLevels
  logFormat : ∃ f, LogFormat.parse c.logFormat = .ok f

theorem require_eq_ok_iff {condition : Bool} {name reason : String} :
    require condition name reason = .ok () ↔ condition = true := by
  cases condition with
  | true => simp [require]
  | false => simp [require]

theorem validate_eq_ok_iff : c.validate = .ok () ↔ c.InRange := by
  have hformat : (LogFormat.parse c.logFormat >>= fun _ => (pure () : Except Error Unit)) = .ok ()
      ↔ ∃ f, LogFormat.parse c.logFormat = .ok f := by
    rw [bind_eq_ok_iff]
    exact exists_congr fun _ => and_iff_left rfl
  unfold validate
  simp only [check_bind_eq_ok_iff, require_eq_ok_iff, hformat, Bool.not_eq_true', Bool.and_eq_true,
    decide_eq_true_iff, bne_iff_ne, List.contains_iff_mem]
  constructor
  · rintro ⟨hinterface, hsnap, htimeout, hlow, hhigh, hsize, hcount, hchannel, hstats, hlevel,
      hformat⟩
    exact ⟨hinterface, hsnap, htimeout, ⟨hlow, hhigh⟩, hsize, hcount, hchannel, hstats, hlevel,
      hformat⟩
  · rintro ⟨hinterface, hsnap, htimeout, ⟨hlow, hhigh⟩, hsize, hcount, hchannel, hstats, hlevel,
      hformat⟩
    exact ⟨hinterface, hsnap, htimeout, hlow, hhigh, hsize, hcount, hchannel, hstats, hlevel,
      hformat⟩

/-! ## Block counts -/

/-- A quotient of words, if there is one. -/
def quotient? (a b : Nat) : Option Nat := if b = 0 then none else some (a / b)

/-- The settings of the session, with a division that has no answer by zero. -/
def checkedSession? (c : Config) : Option SessionSettings := do
  let blockCount ←
    match c.ringBlockCount with
    | some n => some n
    | none => (quotient? c.bufferSize (max 1 c.ringBlockSize)).map (max 1)
  return { blockSize := c.ringBlockSize
           blockCount
           queueCapacity := c.channelBufferSize
           promiscuous := c.promiscuous }

theorem checkedSession?_eq (c : Config) : c.checkedSession? = some c.session := by
  have hquotient : quotient? c.bufferSize (max 1 c.ringBlockSize)
      = some (c.bufferSize / max 1 c.ringBlockSize) := if_neg (by omega)
  unfold checkedSession? session blockCount
  rw [hquotient]
  cases c.ringBlockCount with
  | none => rfl
  | some n => rfl

theorem session_blockCount_of_some {count : Nat} (h : c.ringBlockCount = some count) :
    c.session.blockCount = count := by
  show c.blockCount = count
  rw [blockCount, h]

/-- A derived block count fills the buffer as far as whole blocks can, and is one if no block fits.
-/
theorem session_blockCount_of_none (h : c.ringBlockCount = none) (hsize : c.ringBlockSize ≠ 0) :
    1 ≤ c.session.blockCount
      ∧ (c.session.blockCount * c.ringBlockSize ≤ c.bufferSize
            ∧ c.bufferSize < (c.session.blockCount + 1) * c.ringBlockSize
          ∨ c.session.blockCount = 1 ∧ c.bufferSize < c.ringBlockSize) := by
  have hcount : c.session.blockCount = max 1 (c.bufferSize / c.ringBlockSize) := by
    show c.blockCount = _
    rw [blockCount, h, Nat.max_eq_right (Nat.pos_of_ne_zero hsize)]
  rw [hcount]
  refine ⟨Nat.le_max_left _ _, ?_⟩
  by_cases hfits : c.ringBlockSize ≤ c.bufferSize
  · have hone : 1 ≤ c.bufferSize / c.ringBlockSize := Nat.div_pos hfits (Nat.pos_of_ne_zero hsize)
    rw [Nat.max_eq_right hone]
    refine .inl ⟨Nat.div_mul_le_self _ _, ?_⟩
    rw [Nat.mul_comm]
    exact Nat.lt_mul_div_succ _ (Nat.pos_of_ne_zero hsize)
  · have hlarge : c.bufferSize < c.ringBlockSize := Nat.not_le.mp hfits
    rw [Nat.div_eq_of_lt hlarge]
    exact .inr ⟨rfl, hlarge⟩

/-- A derived ring is no longer than the buffer or than a block, so its length is a word. -/
theorem session_length_lt (h : c.ringBlockCount = none) (hrange : c.InRange)
    (hword : c.ringBlockSize < addressSpace) :
    c.ringBlockSize * c.session.blockCount < addressSpace := by
  rw [Nat.mul_comm]
  rcases (session_blockCount_of_none h hrange.ringBlockSize).2 with ⟨hfills, -⟩ | ⟨hone, -⟩
  · have hbuffer := hrange.bufferSize.2
    have hmax : maxBufferSize < addressSpace := by decide
    omega
  · rw [hone, Nat.one_mul]
    exact hword

/-- After the check of the run the session refuses nothing but its pages and its length. -/
theorem session_validate_iff (hrange : c.InRange) (page : Nat) :
    c.session.validate page = .ok ()
      ↔ page ∣ c.ringBlockSize ∧ c.ringBlockSize * c.session.blockCount < addressSpace := by
  have hcount : 0 < c.session.blockCount := by
    cases hgiven : c.ringBlockCount with
    | none => exact (session_blockCount_of_none hgiven hrange.ringBlockSize).1
    | some count =>
      rw [session_blockCount_of_some hgiven]
      refine Nat.pos_of_ne_zero ?_
      rintro rfl
      exact hrange.ringBlockCount hgiven
  rw [SessionSettings.validate_eq_ok_iff]
  constructor
  · rintro ⟨hshape, -⟩
    exact ⟨hshape.whole, hshape.space⟩
  · rintro ⟨hwhole, hspace⟩
    exact ⟨⟨Nat.pos_of_ne_zero hrange.ringBlockSize, hwhole, hcount, hspace⟩,
      Nat.pos_of_ne_zero hrange.channelBufferSize⟩

/-! ## Sizing -/

/-- **The ring keeps to the buffer.** For all settings the division behind the block count has an
answer. For settings that pass their check, with a block size that is a word, and every page size:
without a given block count there is at least one block, the blocks fit the buffer and one more
would not, or there is a single block because even one does not fit; the length of the ring is the
exact product; and the session accepts its settings exactly if blocks are whole pages. A given block
count is taken as it is, and the session accepts it exactly if, beyond that, the product is a word.
-/
theorem session_keeps_to_buffer (c : Config) :
    c.checkedSession? = some c.session
      ∧ (c.validate = .ok () → c.ringBlockSize < addressSpace → ∀ page,
          let s := c.session
          (c.ringBlockCount = none →
            1 ≤ s.blockCount
              ∧ (s.blockCount * s.blockSize ≤ c.bufferSize
                    ∧ c.bufferSize < (s.blockCount + 1) * s.blockSize
                  ∨ s.blockCount = 1 ∧ c.bufferSize < s.blockSize)
              ∧ s.ringSize = s.blockCount * s.blockSize
              ∧ (s.validate page = .ok () ↔ page ∣ c.ringBlockSize))
          ∧ ∀ count, c.ringBlockCount = some count →
              s.blockCount = count
                ∧ (s.validate page = .ok ()
                    ↔ page ∣ c.ringBlockSize ∧ c.ringBlockSize * count < addressSpace)) := by
  refine ⟨checkedSession?_eq c, ?_⟩
  intro hvalid hword page s
  have hrange := validate_eq_ok_iff.mp hvalid
  refine ⟨?_, ?_⟩
  · intro hnone
    have hlength := session_length_lt hnone hrange hword
    obtain ⟨hone, hfills⟩ := session_blockCount_of_none hnone hrange.ringBlockSize
    refine ⟨hone, hfills, ?_, ?_⟩
    · show min (c.ringBlockSize * c.session.blockCount) (addressSpace - 1) = _
      rw [Nat.min_eq_left (by omega)]
      exact Nat.mul_comm _ _
    · rw [session_validate_iff hrange page]
      exact and_iff_left hlength
  · intro count hsome
    refine ⟨session_blockCount_of_some hsome, ?_⟩
    rw [session_validate_iff hrange page, session_blockCount_of_some hsome]

/-- A block that is half the address space, of which the buffer would not hold a page. -/
theorem session_keeps_to_buffer_hugeBlock :
    let c : Config := { bufferSize := 1024, ringBlockSize := 0x8000000000000000 }
    c.validate = .ok () ∧ c.ringBlockSize < addressSpace ∧ c.ringBlockCount = none
      ∧ c.session.ringSize = c.session.blockCount * c.session.blockSize
      ∧ (c.session.validate 4096 = .ok () ↔ 4096 ∣ c.ringBlockSize) := by
  have hvalid : Config.validate { bufferSize := 1024, ringBlockSize := 0x8000000000000000 }
      = .ok () := rfl
  intro c
  have hword : c.ringBlockSize < addressSpace := by decide
  obtain ⟨hderived, -⟩ := (session_keeps_to_buffer c).2 hvalid hword 4096
  obtain ⟨-, -, hlength, haccepted⟩ := hderived rfl
  exact ⟨hvalid, hword, rfl, hlength, haccepted⟩

end Config

end LinkTap
