/-
What the kernel is asked for when a ring is set up.

A ring is told to the kernel in 32-bit words and mapped as one length, and the settings it comes
from are words of the host. Between them lie two conversions, a product and a division, and each
could lose something without anyone noticing. The ring would then be walked in strides that are not
those of the kernel.

Nothing is lost. What no 32-bit word can hold is refused before the first call. Blocks are whole
pages and pages are whole frames, so the division is exact, and the frames of all blocks are the
frames of one block as many times as there are blocks. The shape of the ring was checked before with
the product inside the address space, and laying a ring over the mapping repeats that check on the
same numbers. So a refusal of the shape can come from the words alone, and once they fit, opening
fails only where the kernel does.
-/
import LinkTap.Proofs.Bytes
import LinkTap.Proofs.Kernel.Resources

set_option autoImplicit false

namespace LinkTap.Kernel

/-! ## The request in words -/

/-- A ring request as the kernel reads it, word after word. -/
structure RingWords where
  blockSize : UInt32
  blockCount : UInt32
  frameSize : UInt32
  frameCount : UInt32
  retireMs : UInt32
  privateSize : UInt32
  features : UInt32
  deriving DecidableEq, Repr

def RingWords.ofBytes (value : Bytes) : RingWords :=
  { blockSize := value.le32 0
    blockCount := value.le32 4
    frameSize := value.le32 8
    frameCount := value.le32 12
    retireMs := value.le32 16
    privateSize := value.le32 20
    features := value.le32 24 }

/-- A request is laid out word by word, so it can be read word by word. -/
theorem RingWords.ofBytes_words (a b c d e f g : Nat) :
    RingWords.ofBytes (Bytes.words [a, b, c, d, e, f, g])
      = ⟨.ofNat a, .ofNat b, .ofNat c, .ofNat d, .ofNat e, .ofNat f, .ofNat g⟩ := by
  have hword : ∀ j (hj : j < 7), _ := fun j hj =>
    Bytes.le32_words (show j < [a, b, c, d, e, f, g].length from hj)
  rw [ofBytes, mk.injEq]
  exact ⟨hword 0 (by decide), hword 1 (by decide), hword 2 (by decide), hword 3 (by decide),
    hword 4 (by decide), hword 5 (by decide), hword 6 (by decide)⟩

/-- The request is for the ring of the settings. The kernel requires as many frames as all blocks
have together, and they take up the whole ring. -/
structure RingWords.Describes (w : RingWords) (s : SessionSettings) : Prop where
  blockSize : w.blockSize.toNat = s.blockSize
  blockCount : w.blockCount.toNat = s.blockCount
  frames : w.frameCount.toNat = w.blockCount.toNat * (w.blockSize.toNat / w.frameSize.toNat)
  octets : w.frameCount.toNat * w.frameSize.toNat = w.blockSize.toNat * w.blockCount.toNat

/-- Some word of the request cannot hold what the settings ask for. -/
def Oversized (s : SessionSettings) : Prop :=
  maxWord32 < s.blockSize ∨ maxWord32 < s.blockCount
    ∨ maxWord32 < s.blockSize * s.blockCount / Ring.frameSize

instance (s : SessionSettings) : Decidable (Oversized s) := inferInstanceAs (Decidable (_ ∨ _))

variable {k : Description} {i : Interface} {s : SessionSettings} {request : RingRequest}

/-- The ring of the settings as it is requested, if it can be. -/
def RingRequest.exact (s : SessionSettings) : RingRequest :=
  { blockSize := s.blockSize
    blockCount := s.blockCount
    frameCount := s.blockSize * s.blockCount / Ring.frameSize
    length := s.blockSize * s.blockCount }

/-- A block that is too large is refused before anything is asked of the kernel. -/
theorem RingRequest.ofSettings_of_oversized (h : Oversized s) :
    ∃ reason, RingRequest.ofSettings s = .error (.invalidRingConfig reason) := by
  unfold RingRequest.ofSettings
  dsimp only
  by_cases hsize : maxWord32 < s.blockSize
  · exact ⟨_, if_pos hsize⟩
  rw [if_neg hsize]
  by_cases hcount : maxWord32 < s.blockCount
  · exact ⟨_, if_pos hcount⟩
  rw [if_neg hcount]
  by_cases hspace : addressSpace ≤ s.blockSize * s.blockCount
  · exact ⟨_, if_pos hspace⟩
  rw [if_neg hspace]
  rcases h with h | h | hframes
  · exact absurd h hsize
  · exact absurd h hcount
  · exact ⟨_, if_pos hframes⟩

/-- Settings that fit are asked for as they are. -/
theorem RingRequest.ofSettings_of_fits (hspace : s.blockSize * s.blockCount < addressSpace)
    (h : ¬ Oversized s) : RingRequest.ofSettings s = .ok (.exact s) := by
  simp only [Oversized, not_or] at h
  obtain ⟨hsize, hcount, hframes⟩ := h
  rw [RingRequest.ofSettings, if_neg hsize, if_neg hcount, if_neg (Nat.not_le.mpr hspace),
    if_neg hframes, RingRequest.exact]

/-- Blocks of whole frames: dividing the ring into frames leaves nothing over. -/
theorem frames_of_blocks {frame size : Nat} (h : frame ∣ size) (count : Nat) :
    size * count / frame = count * (size / frame)
      ∧ size * count / frame * frame = size * count := by
  refine ⟨?_, Nat.div_mul_cancel (Nat.dvd_mul_right_of_dvd h count)⟩
  rw [Nat.mul_comm size count]
  exact Nat.mul_div_assoc count h

theorem toNat_ofNat_of_le {n : Nat} (h : n ≤ maxWord32) : (UInt32.ofNat n).toNat = n := by
  apply UInt32.toNat_ofNat_of_lt'
  rw [maxWord32] at h
  have hsize : UInt32.size = 4294967296 := rfl
  omega

/-- The octets that go with the request option. -/
def requestBytes (s : SessionSettings) : Bytes :=
  Bytes.words [s.blockSize, s.blockCount, Ring.frameSize,
    s.blockSize * s.blockCount / Ring.frameSize, Ring.retireTimeoutMs, 0, 0]

/-- The request describes the session if the frames divide the blocks. -/
theorem describes_requestBytes (hwhole : Ring.frameSize ∣ s.blockSize) (h : ¬ Oversized s) :
    (RingWords.ofBytes (requestBytes s)).Describes s := by
  simp only [Oversized, not_or, Nat.not_lt] at h
  obtain ⟨hsize, hcount, hframes⟩ := h
  obtain ⟨hblocks, hoctets⟩ := frames_of_blocks hwhole s.blockCount
  rw [requestBytes, RingWords.ofBytes_words]
  have hwords : (UInt32.ofNat s.blockSize).toNat = s.blockSize
      ∧ (UInt32.ofNat s.blockCount).toNat = s.blockCount
      ∧ (UInt32.ofNat Ring.frameSize).toNat = Ring.frameSize
      ∧ (UInt32.ofNat (s.blockSize * s.blockCount / Ring.frameSize)).toNat
          = s.blockSize * s.blockCount / Ring.frameSize :=
    ⟨toNat_ofNat_of_le hsize, toNat_ofNat_of_le hcount, rfl, toNat_ofNat_of_le hframes⟩
  obtain ⟨hblockSize, hblockCount, hframeSize, hframeCount⟩ := hwords
  refine ⟨hblockSize, hblockCount, ?_, ?_⟩
  · rw [hframeCount, hblockCount, hblockSize, hframeSize]
    exact hblocks
  · rw [hframeCount, hframeSize, hblockSize, hblockCount]
    exact hoctets

/-! ## Attempts -/

/-- Whatever an attempt comes to, each of its calls is as told, and so is its error. -/
structure Within {α : Type} (calls : Call → Prop) (errors : Error → Prop) (a : Attempt α) :
    Prop where
  call : ∀ c ∈ a.calls, calls c
  error : ∀ e, a.outcome = .error e → errors e

namespace Within

variable {α β : Type} {calls : Call → Prop} {errors : Error → Prop}

theorem success (x : α) : Within calls errors ⟨[], .ok x⟩ := by
  refine ⟨?_, ?_⟩
  · intro c hc
    cases hc
  · intro e he
    cases he

theorem one {c : Call} {failure : Option Error} (hcall : calls c)
    (hfailure : ∀ e, failure = some e → errors e) :
    Within calls errors (Attempt.call c failure) := by
  refine ⟨?_, ?_⟩
  · intro c' hc'
    rw [List.mem_singleton.mp hc']
    exact hcall
  · intro e he
    unfold Attempt.call at he
    split at he
    · rw [← Except.error.inj he]
      exact hfailure _ rfl
    · cases he

theorem andThen {a : Attempt α} {next : α → Attempt β} (ha : Within calls errors a)
    (hnext : ∀ x, Within calls errors (next x)) : Within calls errors (a.andThen next) := by
  unfold Attempt.andThen
  split
  · rename_i e houtcome
    refine ⟨ha.call, ?_⟩
    intro e' he'
    rw [← Except.error.inj he']
    exact ha.error e houtcome
  · rename_i x houtcome
    refine ⟨?_, (hnext x).error⟩
    intro c hc
    rcases List.mem_append.mp hc with hfirst | hsecond
    · exact ha.call c hfirst
    · exact (hnext x).call c hsecond

theorem regardless {a : Attempt Unit} (ha : Within calls errors a) :
    Within calls errors a.regardless := by
  refine ⟨ha.call, ?_⟩
  intro e he
  cases he

theorem onError {a : Attempt α} {cleanup : List Call} (ha : Within calls errors a)
    (hcleanup : ∀ c ∈ cleanup, calls c) : Within calls errors (a.onError cleanup) := by
  unfold Attempt.onError
  split
  · refine ⟨?_, ha.error⟩
    intro c hc
    rcases List.mem_append.mp hc with hmade | hcleaned
    · exact ha.call c hmade
    · exact hcleanup c hcleaned
  · exact ha

end Within

namespace Attempt

variable {α β : Type} {a : Attempt α} {next : α → Attempt β}

/-- What was done stays done, whatever comes next. -/
theorem prefix_andThen : a.calls <+: (a.andThen next).calls := by
  unfold andThen
  split
  · exact List.prefix_refl _
  · exact List.prefix_append _ _

theorem prefix_onError (cleanup : List Call) : a.calls <+: (a.onError cleanup).calls := by
  unfold onError
  split
  · exact List.prefix_append _ _
  · exact List.prefix_refl _

/-- An attempt that succeeds is followed by the next one. -/
theorem andThen_of_ok {x : α} (h : a.outcome = .ok x) :
    a.andThen next = ⟨a.calls ++ (next x).calls, (next x).outcome⟩ := by
  rw [andThen, h]

theorem call_eq_ok_iff {c : Call} {failure : Option Error} :
    (Attempt.call c failure).outcome = .ok () ↔ failure = none := by
  unfold call
  cases failure with
  | none => simp
  | some e => simp

end Attempt

/-! ## Opening -/

/-- Every ring that is requested is the one of the settings, and so is every length that is mapped.
-/
def Call.Agrees (s : SessionSettings) : Call → Prop
  | .setOption level name value => level = packetLevel ∧ name = 5 → value = requestBytes s
  | .map length _ _ _ => length = s.blockSize * s.blockCount
  | _ => True

/-- A refusal of the shape of a ring. -/
def ShapeRefused (e : Error) : Prop := ∃ reason, e = .invalidRingConfig reason

/-- A step that the kernel may refuse, which is reported as anything but a refusal of the shape. -/
theorem Within.step {c : Call} {errno : Option Errno} {report : Errno → Error} (hcall : c.Agrees s)
    (hreport : ∀ n, ¬ ShapeRefused (report n)) :
    Within (Call.Agrees s) (fun e => ¬ ShapeRefused e) (Attempt.call c (errno.map report)) := by
  refine Within.one hcall ?_
  intro e he
  obtain ⟨n, -, rfl⟩ := Option.map_eq_some_iff.mp he
  exact hreport n

namespace Description

/-- The ring that is laid over a mapping of its own length. -/
theorem layRing_eq (hshape : Ring.Admissible k.pageSize s.blockSize s.blockCount) :
    k.layRing s (.exact s) =
      ⟨[], .ok { region := .zeroed (s.blockSize * s.blockCount)
                 blockSize := s.blockSize
                 blockCount := s.blockCount
                 cursor := 0
                 closed := false }⟩ := by
  have hring := Ring.create_eq_ok_iff.mpr ⟨hshape, Nat.le_refl (Region.zeroed _).size, rfl⟩
  unfold layRing
  rw [RingRequest.exact, hring]
  rfl

/-- Mapping agrees with the request, and it never fails for the shape of the ring. -/
theorem within_mapRing (hshape : Ring.Admissible k.pageSize s.blockSize s.blockCount) :
    Within (Call.Agrees s) (fun e => ¬ ShapeRefused e) (k.mapRing s (.exact s)) := by
  refine Within.andThen (Within.one rfl ?_) ?_
  · intro e he
    rintro ⟨reason, rfl⟩
    split at he <;> cases he
  · intro _
    rw [layRing_eq hshape]
    exact Within.success _

theorem within_configure (k : Description) (i : Interface) (s : SessionSettings) :
    Within (Call.Agrees s) (fun e => ¬ ShapeRefused e) (k.configure i s (.exact s)) := by
  -- The version and the promiscuous mode are options as well, but other ones than the ring.
  have hversion : Call.Agrees s (versionCall Ring.tpacketVersion) := fun h => absurd h.2 (by decide)
  have hpromiscuous : Call.Agrees s (promiscuousCall i.index) := fun h => absurd h.2 (by decide)
  unfold configure
  refine Within.andThen (Within.step hversion fun _ ⟨_, h⟩ => nomatch h) fun _ => ?_
  refine Within.andThen (Within.step (fun _ => rfl) fun _ ⟨_, h⟩ => nomatch h) fun _ => ?_
  refine Within.andThen (Within.step trivial fun _ ⟨_, h⟩ => nomatch h) fun _ => ?_
  split
  · exact Within.regardless (Within.step hpromiscuous fun _ ⟨_, h⟩ => nomatch h)
  · exact Within.success _

/-- A request whose words are wide enough: what opening does with the kernel, and how it can fail.
-/
theorem within_openSource (hshape : Ring.Admissible k.pageSize s.blockSize s.blockCount)
    (hfits : ¬ Oversized s) :
    Within (Call.Agrees s) (fun e => ¬ ShapeRefused e) (k.openSource i s) := by
  unfold openSource
  rw [RingRequest.ofSettings_of_fits hshape.space hfits]
  refine Within.andThen (Within.step trivial fun _ ⟨_, h⟩ => nomatch h) fun _ => ?_
  have hring := (within_configure k i s).andThen fun _ => within_mapRing hshape
  refine Within.andThen (hring.onError ?_) fun _ => Within.success _
  intro c hc
  rw [List.mem_singleton.mp hc]
  trivial

/-- The first calls, up to the request. -/
theorem request_prefix (hspace : s.blockSize * s.blockCount < addressSpace) (hfits : ¬ Oversized s)
    (hsocket : k.socket = none) (hversion : k.version = none) :
    [socketCall, versionCall Ring.tpacketVersion, .setOption packetLevel 5 (requestBytes s)]
      <+: (k.openSource i s).calls := by
  unfold openSource
  rw [RingRequest.ofSettings_of_fits hspace hfits, hsocket]
  refine (List.prefix_append_right_inj [socketCall]).mpr ?_
  refine .trans ?_ Attempt.prefix_andThen
  refine .trans ?_ (Attempt.prefix_onError _)
  refine .trans ?_ Attempt.prefix_andThen
  unfold configure
  rw [hversion]
  refine (List.prefix_append_right_inj [versionCall Ring.tpacketVersion]).mpr ?_
  exact Attempt.prefix_andThen (a := .call (.setOption packetLevel 5 (requestBytes s)) _)

/-- A socket is configured exactly if the kernel grants version, ring and binding. The frames of
others are done without if they are not granted. -/
theorem configure_eq_ok_iff :
    (k.configure i s request).outcome = .ok ()
      ↔ k.version = none ∧ k.ring = none ∧ k.bind = none := by
  unfold configure
  dsimp only
  constructor
  · intro h
    obtain ⟨_, hversion, h⟩ := Attempt.andThen_eq_ok h
    obtain ⟨_, hring, h⟩ := Attempt.andThen_eq_ok h
    obtain ⟨_, hbind, -⟩ := Attempt.andThen_eq_ok h
    exact ⟨Option.map_eq_none_iff.mp (Attempt.call_eq_ok_iff.mp hversion),
      Option.map_eq_none_iff.mp (Attempt.call_eq_ok_iff.mp hring),
      Option.map_eq_none_iff.mp (Attempt.call_eq_ok_iff.mp hbind)⟩
  · rintro ⟨hversion, hring, hbind⟩
    rw [hversion, hring, hbind]
    -- What is left to go wrong is the frames of others, and that is put up with.
    split
    · rfl
    · rfl

theorem mapRing_eq_ok_iff (hshape : Ring.Admissible k.pageSize s.blockSize s.blockCount) :
    (∃ ring, (k.mapRing s (.exact s)).outcome = .ok ring) ↔ k.mapping = .mapped := by
  unfold mapRing
  dsimp only
  constructor
  · rintro ⟨ring, h⟩
    obtain ⟨_, hmapped, -⟩ := Attempt.andThen_eq_ok h
    have hnone := Attempt.call_eq_ok_iff.mp hmapped
    split at hnone
    · assumption
    · cases hnone
    · cases hnone
  · intro hmapping
    rw [hmapping, layRing_eq hshape]
    exact ⟨_, rfl⟩

/-- What is mapped once the socket is bound. -/
theorem mapCall_mem (hshape : Ring.Admissible k.pageSize s.blockSize s.blockCount)
    (hfits : ¬ Oversized s)
    (hsocket : k.socket = none) (hversion : k.version = none) (hring : k.ring = none)
    (hbind : k.bind = none) : mapCall (s.blockSize * s.blockCount) ∈ (k.openSource i s).calls := by
  unfold openSource
  rw [RingRequest.ofSettings_of_fits hshape.space hfits, hsocket]
  refine List.mem_append_right [socketCall] ?_
  refine Attempt.prefix_andThen.subset ?_
  refine (Attempt.prefix_onError _).subset ?_
  rw [Attempt.andThen_of_ok (configure_eq_ok_iff.mpr ⟨hversion, hring, hbind⟩)]
  refine List.mem_append_right _ ?_
  exact Attempt.prefix_andThen.subset (List.mem_singleton.mpr rfl)

/-- Once the words are wide enough, opening fails only where the kernel does. -/
theorem openSource_eq_ok_iff (hshape : Ring.Admissible k.pageSize s.blockSize s.blockCount)
    (hfits : ¬ Oversized s) :
    (∃ p, (k.openSource i s).outcome = .ok p)
      ↔ k.socket = none ∧ k.version = none ∧ k.ring = none ∧ k.bind = none
        ∧ k.mapping = .mapped := by
  unfold openSource
  rw [RingRequest.ofSettings_of_fits hshape.space hfits]
  dsimp only
  constructor
  · rintro ⟨p, h⟩
    obtain ⟨_, hcreated, h⟩ := Attempt.andThen_eq_ok h
    obtain ⟨ring, hring, -⟩ := Attempt.andThen_eq_ok h
    rw [Attempt.outcome_onError] at hring
    obtain ⟨_, hconfigured, hmapped⟩ := Attempt.andThen_eq_ok hring
    have hsocket := Option.map_eq_none_iff.mp (Attempt.call_eq_ok_iff.mp hcreated)
    obtain ⟨hversion, hrequest, hbind⟩ := configure_eq_ok_iff.mp hconfigured
    exact ⟨hsocket, hversion, hrequest, hbind, (mapRing_eq_ok_iff hshape).mp ⟨ring, hmapped⟩⟩
  · rintro ⟨hsocket, hversion, hrequest, hbind, hmapping⟩
    have hconfigured : (k.configure i s (.exact s)).outcome = .ok () :=
      configure_eq_ok_iff.mpr ⟨hversion, hrequest, hbind⟩
    obtain ⟨ring, hmapped⟩ := (mapRing_eq_ok_iff hshape).mpr hmapping
    have hring : (((k.configure i s (.exact s)).andThen fun _ => k.mapRing s (.exact s)).onError
        [.close]).outcome = .ok ring := by
      rw [Attempt.outcome_onError, Attempt.andThen_of_ok hconfigured]
      exact hmapped
    rw [hsocket, Option.map_none, Attempt.andThen_of_ok (Attempt.call_eq_ok_iff.mpr rfl),
      Attempt.andThen_of_ok hring]
    exact ⟨_, rfl⟩

end Description

/-! ## Exactness -/

/-- **The negotiated ring is the ring of the settings.** For every kernel whose pages are whole
frames, every interface and all settings that pass their check, opening a source is refused for the
shape of the ring exactly if some number does not fit its 32-bit word, and then no call is made.
Otherwise, if the first two steps succeed, the third is a request whose words are the block size and
the block count without loss and as many frames as the kernel requires, which take up all blocks
together. No other ring is requested, that length and no other is mapped, and a ring can be laid
over every memory of that length. So with words that fit, opening succeeds exactly if the kernel
lets every step but the promiscuous one succeed. -/
theorem ring_negotiated_exactly (k : Description) (i : Interface) (s : SessionSettings)
    (hpage : Ring.frameSize ∣ k.pageSize) (hvalid : s.validate k.pageSize = .ok ()) :
    let length := s.blockSize * s.blockCount
    let opening := k.openSource i s
    ((∃ reason, opening.outcome = .error (.invalidRingConfig reason)) ↔ Oversized s)
      ∧ (Oversized s → opening.calls = [])
      ∧ (¬ Oversized s → k.socket = none → k.version = none → ∃ value,
          [socketCall, versionCall Ring.tpacketVersion, .setOption packetLevel 5 value]
            <+: opening.calls
            ∧ value.length = 28 ∧ (RingWords.ofBytes value).Describes s
            ∧ (∀ other, .setOption packetLevel 5 other ∈ opening.calls → other = value)
            ∧ (∀ n protection flags offset, .map n protection flags offset ∈ opening.calls →
                n = length)
            ∧ (k.ring = none → k.bind = none → mapCall length ∈ opening.calls))
      ∧ (∀ region : Region, region.size = length →
          ∃ ring, Ring.create region s.blockSize s.blockCount k.pageSize = .ok ring)
      ∧ (¬ Oversized s → ((∃ p, opening.outcome = .ok p)
          ↔ k.socket = none ∧ k.version = none ∧ k.ring = none ∧ k.bind = none
            ∧ k.mapping = .mapped)) := by
  intro length opening
  obtain ⟨hshape, -⟩ := SessionSettings.validate_eq_ok_iff.mp hvalid
  have hwhole : Ring.frameSize ∣ s.blockSize := Nat.dvd_trans hpage hshape.whole
  have hrefused : Oversized s → ∃ reason, opening = ⟨[], .error (.invalidRingConfig reason)⟩ := by
    intro hlarge
    obtain ⟨reason, hrequest⟩ := RingRequest.ofSettings_of_oversized hlarge
    refine ⟨reason, ?_⟩
    show k.openSource i s = _
    rw [Description.openSource, hrequest]
  refine ⟨⟨?_, ?_⟩, ?_, ?_, ?_, Description.openSource_eq_ok_iff hshape⟩
  · rintro ⟨reason, hreason⟩
    refine Classical.byContradiction fun hfits => ?_
    exact (Description.within_openSource hshape hfits).error _ hreason ⟨reason, rfl⟩
  · intro hlarge
    obtain ⟨reason, hopening⟩ := hrefused hlarge
    rw [hopening]
    exact ⟨reason, rfl⟩
  · intro hlarge
    obtain ⟨reason, hopening⟩ := hrefused hlarge
    rw [hopening]
  · intro hfits hsocket hversion
    have hcalls := (Description.within_openSource (i := i) hshape hfits).call
    refine ⟨requestBytes s, Description.request_prefix hshape.space hfits hsocket hversion, rfl,
      describes_requestBytes hwhole hfits, ?_, ?_, ?_⟩
    · intro other hother
      exact hcalls _ hother ⟨rfl, rfl⟩
    · intro n protection flags offset hmap
      exact hcalls _ hmap
    · intro hring hbind
      exact Description.mapCall_mem hshape hfits hsocket hversion hring hbind
  · intro region hregion
    exact ⟨_, Ring.create_eq_ok_iff.mpr ⟨hshape, Nat.le_of_eq hregion.symm, rfl⟩⟩

/-- Three blocks of three large pages each are requested and mapped. -/
theorem ring_negotiated_exactly_largePages :
    let k : Description := { pageSize := 16384 }
    let i : Interface := { name := "eth0", index := 2, mtu := 1500, flags := { up := true } }
    let s : SessionSettings := { blockSize := 49152, blockCount := 3 }
    Ring.frameSize ∣ k.pageSize ∧ s.validate k.pageSize = .ok () ∧ ¬ Oversized s
      ∧ ∃ value,
        [socketCall, versionCall Ring.tpacketVersion, .setOption packetLevel 5 value]
            <+: (k.openSource i s).calls
          ∧ (RingWords.ofBytes value).Describes s
          ∧ mapCall (s.blockSize * s.blockCount) ∈ (k.openSource i s).calls := by
  intro k i s
  have hpage : Ring.frameSize ∣ k.pageSize := by decide
  have hvalid : s.validate k.pageSize = .ok () :=
    SessionSettings.validate_eq_ok_iff.mpr ⟨⟨by decide, by decide, by decide, by decide⟩, by decide⟩
  have hfits : ¬ Oversized s := by decide
  obtain ⟨-, -, hexact, -⟩ := ring_negotiated_exactly k i s hpage hvalid
  obtain ⟨value, hprefix, -, hdescribes, -, -, hmapped⟩ := hexact hfits rfl rfl
  exact ⟨hpage, hvalid, hfits, value, hprefix, hdescribes, hmapped rfl rfl⟩

end LinkTap.Kernel
