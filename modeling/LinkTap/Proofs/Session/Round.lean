/-
One round of the receive loop.

A round that finds the ring ready drains it for at most a lap. The blocks that it comes to are
settled when it begins: the backlog, the blocks that the consumer owns from the cursor on without a
gap. Each of them is walked as it lay at that moment, its records are handed on one after the other,
it is given back, and a malformed one counts as an error without keeping the next one from its turn.
A round whose wait ends in any other way leaves the ring alone.

That a round never meets a released ring is a matter of the engine and not of the ring: a source is
released by a stop, or by a start that cannot launch its receive loop, and neither leaves a session
behind.
-/
import Mathlib.Data.List.Basic
import LinkTap.Proofs.Ring.Lap
import LinkTap.Proofs.Session.Lifecycle

set_option autoImplicit false

namespace LinkTap

/-! ## Looks of a round -/

namespace Ring

variable {r : Ring}

/-- A look counts as malformed exactly if the walk met a fault. -/
theorem Walk.isMalformed_outcome (w : Walk) (ring : Ring) (records : List Record) :
    (⟨ring, records, w.outcome⟩ : Step).isMalformed = w.fault.isSome := by
  unfold Step.isMalformed Walk.outcome
  cases w.fault with
  | none => rfl
  | some fault => rfl

/-- After a block was walked the round goes on, malformed or not. -/
theorem Walk.goesOn_outcome (w : Walk) (ring : Ring) (records : List Record) :
    (⟨ring, records, w.outcome⟩ : Step).goesOn = true := by
  unfold Step.goesOn Step.isMalformed Walk.outcome
  cases w.fault with
  | none => rfl
  | some fault => rfl

/-- A round that has come to the end of the backlog looks once more, unless the lap is over. The
induction is on the looks that are left of the lap, so that a step is the first of them. -/
theorem WellFormed.looks_givenBack (hw : r.WellFormed) (hopen : r.closed = false) {k limit : Nat}
    (hk : k ≤ r.backlog) (hlap : k + limit = r.blockCount) :
    (r.givenBack k).looks limit
      = (List.range' k (min (r.backlog + 1) r.blockCount - k)).map r.givenBack := by
  induction limit generalizing k with
  | zero =>
    have hdone : min (r.backlog + 1) r.blockCount - k = 0 := by omega
    rw [hdone]
    rfl
  | succ limit ih =>
    rw [looks]
    by_cases hbacklog : k = r.backlog
    · subst hbacklog
      have hlast : min (r.backlog + 1) r.blockCount - r.backlog = 1 := by omega
      rw [hw.process_backlog hopen (by omega), hlast]
      rfl
    · have hmore : min (r.backlog + 1) r.blockCount - k
          = (min (r.backlog + 1) r.blockCount - (k + 1)) + 1 := by omega
      rw [hw.process_givenBack hopen (by omega), if_pos (Walk.goesOn_outcome ..),
        ih (k := k + 1) (by omega) (by omega), hmore, List.range'_succ, List.map_cons]

/-- A round looks at every block of the backlog and once behind it, within a lap. -/
theorem WellFormed.looks_eq (hw : r.WellFormed) (hopen : r.closed = false) :
    r.looks r.blockCount = (List.range (min (r.backlog + 1) r.blockCount)).map r.givenBack := by
  have hlooks := hw.looks_givenBack hopen (Nat.zero_le _) (Nat.zero_add r.blockCount)
  rwa [Nat.sub_zero, ← List.range_eq_range'] at hlooks

theorem WellFormed.close (hw : r.WellFormed) : r.close.WellFormed :=
  ⟨hw.page, hw.size_pos, hw.space, hw.room, hw.cursor_lt⟩

/-- A look at an open ring is never refused. -/
theorem WellFormed.result_ne_ringClosed (hw : r.WellFormed) (hopen : r.closed = false) :
    r.process.result ≠ .error .ringClosed := by
  intro hrefused
  rcases hw.process_cases with ⟨hclosed, -⟩ | ⟨-, -, hlook⟩ | ⟨-, -, hlook⟩
  · rw [hopen] at hclosed
    cases hclosed
  · rw [hlook] at hrefused
    cases hrefused
  · have houtcome : (r.block r.cursor).walk.outcome = .error .ringClosed := by
      rw [hlook] at hrefused
      exact hrefused
    rcases (r.block r.cursor).walk.outcome_cases with hcount | ⟨reason, hfault⟩
    · rw [hcount] at houtcome
      cases houtcome
    · rw [hfault] at houtcome
      cases houtcome

/-- A round does not release the ring, and meets no released one if it begins with an open one. -/
theorem WellFormed.of_mem_looks (hw : r.WellFormed) {limit : Nat} {look : Ring}
    (h : look ∈ r.looks limit) : look.WellFormed ∧ look.closed = r.closed := by
  induction limit generalizing r with
  | zero => cases h
  | succ limit ih =>
    rw [looks] at h
    rcases List.mem_cons.mp h with rfl | h
    · exact ⟨hw, rfl⟩
    · split at h
      · obtain ⟨hlook, hclosed⟩ := ih hw.process h
        exact ⟨hlook, hclosed.trans r.process_closed⟩
      · cases h

end Ring

/-- The ring of every source that was opened has its shape. -/
theorem Platform.wellFormed_of_openRing {p : Platform} {i : Interface} {settings : SessionSettings}
    {ring : Ring} (h : p.openRing i settings = .ok ring) : ring.WellFormed := by
  unfold openRing at h
  cases hmap : p.mapRing i settings with
  | error err =>
    rw [hmap] at h
    cases h
  | ok region =>
    rw [hmap] at h
    exact (Ring.create_eq_ok h).2

namespace Engine

variable {e : Engine}

/-! ## The sources of an engine -/

/-- Every source that was opened still has its shape. -/
def Sound (e : Engine) : Prop := ∀ ring ∈ e.sources, ring.WellFormed

/-- One more source, or another state of the newest one. -/
theorem Sound.cons {e' : Engine} {ring : Ring} {earlier : List Ring} (hring : ring.WellFormed)
    (hearlier : ∀ ring ∈ earlier, ring.WellFormed) (hsources : e'.sources = ring :: earlier) :
    Sound e' := by
  intro ring' hmem
  rw [hsources] at hmem
  rcases List.mem_cons.mp hmem with rfl | hmem
  · exact hring
  · exact hearlier ring' hmem

theorem Sound.tail (h : Sound e) : ∀ ring ∈ e.sources.tail, ring.WellFormed :=
  fun ring hring => h ring (List.mem_of_mem_tail hring)

theorem Sound.source (h : Sound e) {ring : Ring} (hring : e.source? = some ring) :
    ring.WellFormed :=
  h ring (List.mem_of_head? hring)

/-- Looking at rings of the right shape leaves one behind. -/
theorem Sound.handle_foldl (h : Sound e) (s : Session) (now : Timestamp) {rings : List Ring}
    (hrings : ∀ ring ∈ rings, ring.WellFormed) : Sound (rings.foldl (handle s now) e) := by
  induction rings generalizing e with
  | nil => exact h
  | cons ring rings ih =>
    rw [List.foldl_cons]
    apply ih
    · exact .cons (hrings ring (List.mem_cons_self ..)).process h.tail (handle_frame s now e ring).1
    · exact fun ring hring => hrings ring (List.mem_cons_of_mem _ hring)

/-- A start brings a ring of its own at most. A launch that
fails releases it, and it keeps its shape. -/
theorem Sound.start (h : Sound e) (platform : Platform) (now : Timestamp) (target : String)
    (settings : SessionSettings) (thread : Except Error Unit) :
    Sound (e.start platform now target settings thread).1 := by
  rcases e.start_cases platform now target settings thread with
    ⟨-, hstart⟩ | ⟨-, err, -, hstart⟩ | ⟨-, i, ring, hacquire, ⟨err, -, hstart⟩ | ⟨-, hstart⟩⟩
  · rw [hstart]
    exact h
  · rw [hstart]
    exact h
  all_goals
    have hring := Platform.wellFormed_of_openRing (acquire_eq_ok hacquire).2.2
    rw [hstart]
  · exact .cons hring.close h rfl
  · exact .cons hring h rfl

theorem Sound.closeSource (h : Sound e) : Sound e.closeSource := by
  unfold Engine.closeSource
  cases hring : e.source? with
  | none => exact h
  | some ring => exact .cons (h.source hring).close h.tail rfl

/-- A round changes the newest source only, by looks at it. -/
theorem Sound.round (h : Sound e) (now : Timestamp) (wait : Wait) : Sound (e.round now wait) := by
  unfold Engine.round
  split
  · exact h
  split
  · exact h
  cases wait with
  | ready =>
    dsimp only
    split
    · rename_i ring hring
      rw [drain_eq_foldl _ now hring]
      exact h.handle_foldl _ now fun look hlook => ((h.source hring).of_mem_looks hlook).1
    · exact h
  | timedOut => exact h
  | interrupted => exact h
  | failed => exact h
  | crashed => exact h

/-- The kernel may write whatever it likes: the shape is not in the memory. -/
theorem Sound.write (h : Sound e) (offset : Nat) (data : Bytes) :
    Sound ((e.writeMemory offset data).getD e) := by
  rcases e.write_cases offset data with hwrite | ⟨ring, region, hring, hregion, hwrite⟩
  · rw [hwrite]
    exact h
  · have hbytes : { ring with region } = ring.withBytes region.byte := by
      rw [Region.eq_of_write hregion]
      rfl
    rw [hwrite, hbytes]
    exact .cons ((h.source hring).withBytes region.byte) h.tail rfl

theorem Sound.receive (h : Sound e) (r : Receiver) : Sound (e.receive r).1 := by
  rcases e.receive_cases r with ⟨-, ⟨p, rest, -, hreceive⟩ | ⟨-, hreceive⟩⟩
    | ⟨-, ⟨p, retired, -, hreceive⟩ | ⟨-, hreceive⟩⟩
  all_goals
    rw [hreceive]
    exact h

/-- No event takes the shape from a source. -/
theorem Sound.step (h : Sound e) (event : Event) : Sound (e.step event) := by
  cases event with
  | start platform now target settings thread => exact h.start platform now target settings thread
  | stop =>
    rcases e.stop_cases with ⟨-, hstop⟩ | ⟨-, hstop⟩
    · rw [Engine.step, hstop]
      exact h
    · rw [Engine.step, hstop]
      exact h.closeSource
  | round now wait => exact h.round now wait
  | write offset data => exact h.write offset data
  | receive receiver => exact h.receive receiver
  | installSink target => exact h
  | takeJournal => exact h
  | setGauge gauge => exact h

/-- All sources of a run have their shape. -/
theorem Sound.run (h : Sound e) (events : List Event) : Sound (e.run events) := by
  induction events generalizing e with
  | nil => exact h
  | cons event events ih => exact ih (h.step event)

theorem sound_new : Sound {} := by
  intro ring hring
  cases hring

/-- The source of an active session is open. -/
theorem Orderly.exists_source (h : Orderly e) (hsome : e.session.isSome) :
    ∃ ring, e.source? = some ring ∧ ring.closed = false := by
  obtain ⟨earlier, hsources⟩ := h.sources
  rw [if_pos hsome] at hsources
  cases hlist : e.sources with
  | nil =>
    rw [hlist] at hsources
    cases hsources
  | cons ring rest =>
    rw [hlist, List.map_cons, List.singleton_append, List.cons.injEq] at hsources
    exact ⟨ring, source?_of_sources hlist, hsources.1⟩

/-! ## Blocks of the backlog -/

/-- What the receive loop makes of the block that it comes to after `i` others, in a round that
found the ring as `ring`. -/
def absorb (s : Session) (now : Timestamp) (ring : Ring) (e : Engine) (i : Nat) : Engine :=
  let walk := (ring.block (ring.ahead i)).walk
  let delivered := walk.records.foldl (deliver s now (ring.givenBack i).utilization)
    (e.setSource (ring.givenBack (i + 1)))
  if walk.fault.isSome then delivered.countError else delivered

variable {ring : Ring}

/-- What the receive loop does to a block of the backlog is
settled by how the block lay there when the round began. -/
theorem handle_givenBack (hw : ring.WellFormed) (hopen : ring.closed = false) {i : Nat}
    (hi : i < ring.backlog) (s : Session) (now : Timestamp) (e : Engine) :
    handle s now e (ring.givenBack i) = absorb s now ring e i := by
  unfold handle absorb
  rw [hw.process_givenBack hopen hi, Ring.Walk.isMalformed_outcome]

/-- Absorbing a block gives it back and leaves the other sources alone. -/
theorem absorb_frame (s : Session) (now : Timestamp) (ring : Ring) (e : Engine) (i : Nat) :
    (absorb s now ring e i).sources = ring.givenBack (i + 1) :: e.sources.tail := by
  have hfold := deliver_foldl_frame s now (ring.givenBack i).utilization
    (ring.block (ring.ahead i)).walk.records (e.setSource (ring.givenBack (i + 1)))
  unfold absorb
  dsimp only
  split
  · exact hfold.1
  · exact hfold.1

/-- So after `k` blocks the first `k` are given back. -/
theorem absorb_foldl_frame (s : Session) (now : Timestamp) (hring : e.source? = some ring)
    (k : Nat) :
    ((List.range k).foldl (absorb s now ring) e).sources = ring.givenBack k :: e.sources.tail := by
  induction k with
  | zero =>
    obtain ⟨rest, hsources⟩ : ∃ rest, e.sources = ring :: rest := List.head?_eq_some_iff.mp hring
    simp only [List.range_zero, List.foldl_nil, Ring.givenBack, hsources, List.tail_cons]
  | succ k ih =>
    rw [List.range_succ, List.foldl_append, List.foldl_cons, List.foldl_nil, absorb_frame, ih,
      List.tail_cons]

/-- To hand a record on is no error, whether the packet is dropped or queued. -/
theorem errors_deliver (s : Session) (now : Timestamp) (utilization : Float) (e : Engine)
    (record : Ring.Record) :
    (deliver s now utilization e record).counters.errors = e.counters.errors := by
  unfold deliver
  split
  · rfl
  · dsimp only
    split <;> rfl

theorem errors_deliver_foldl (s : Session) (now : Timestamp) (utilization : Float)
    (records : List Ring.Record) (e : Engine) :
    (records.foldl (deliver s now utilization) e).counters.errors = e.counters.errors := by
  induction records generalizing e with
  | nil => rfl
  | cons record records ih => rw [List.foldl_cons, ih, errors_deliver]

/-- A block counts as an error exactly if its walk meets a fault. -/
theorem errors_absorb (s : Session) (now : Timestamp) (ring : Ring) (e : Engine) (i : Nat) :
    (absorb s now ring e i).counters.errors
      = e.counters.errors + if (ring.block (ring.ahead i)).walk.fault.isSome then 1 else 0 := by
  have hfold := errors_deliver_foldl s now (ring.givenBack i).utilization
    (ring.block (ring.ahead i)).walk.records (e.setSource (ring.givenBack (i + 1)))
  unfold absorb
  dsimp only
  split
  · exact congrArg (· + 1) hfold
  · exact hfold

/-- The errors of a round are the malformed blocks among those it absorbed. -/
theorem errors_absorb_foldl (s : Session) (now : Timestamp) (ring : Ring) (e : Engine) (k : Nat) :
    ((List.range k).foldl (absorb s now ring) e).counters.errors
      = e.counters.errors
        + (List.range k).countP fun i => (ring.block (ring.ahead i)).walk.fault.isSome := by
  induction k with
  | zero => rfl
  | succ k ih =>
    rw [List.range_succ, List.foldl_append, List.foldl_cons, List.foldl_nil, errors_absorb, ih,
      List.countP_append, List.countP_singleton, Nat.add_assoc]

/-- A round is over with the backlog; the look behind it changes nothing. -/
theorem drain_eq_absorb (hw : ring.WellFormed) (hopen : ring.closed = false)
    (hring : e.source? = some ring) (s : Session) (now : Timestamp) :
    drain s now ring.blockCount e = (List.range ring.backlog).foldl (absorb s now ring) e := by
  have habsorb : ((List.range ring.backlog).map ring.givenBack).foldl (handle s now) e
      = (List.range ring.backlog).foldl (absorb s now ring) e := by
    rw [List.foldl_map]
    refine List.foldl_ext _ _ _ fun e i hi => ?_
    exact handle_givenBack hw hopen (List.mem_range.mp hi) s now e
  rw [drain_eq_foldl s now hring, hw.looks_eq hopen]
  by_cases hlap : ring.backlog < ring.blockCount
  · have hmin : min (ring.backlog + 1) ring.blockCount = ring.backlog + 1 := by omega
    rw [hmin, List.range_succ, List.map_append, List.foldl_append, habsorb]
    have hsources := absorb_foldl_frame (e := e) s now hring ring.backlog
    generalize (List.range ring.backlog).foldl (absorb s now ring) e = drained at hsources
    -- The look behind the backlog hands nothing on, and the ring that it leaves is there already.
    show handle s now drained (ring.givenBack ring.backlog) = drained
    unfold handle
    rw [hw.process_backlog hopen hlap]
    show drained.setSource _ = drained
    rw [setSource, hsources, List.tail_cons, ← hsources]
  · have hle := ring.backlog_le
    have hmin : min (ring.backlog + 1) ring.blockCount = ring.backlog := by omega
    rw [hmin, habsorb]

/-! ## The round -/

/-- **A round drains the backlog and no more.** In every reachable state of an engine whose receive
loop runs, the source of the session is open, and what a round with a ready ring does is settled by
the blocks that the consumer owns from the cursor on without a gap: exactly these are walked as they
lie, one after the other in ring order, whether walks before them met a fault or not, their records
are handed on, and they are given back; the cursor is behind them, a fault counts as an error, and
no octet changes but those of their status words. Without such a block nothing changes. After a wait
that timed out or was interrupted nothing changes, and after one that failed an error is counted and
nothing else changes. No look of a round meets a released ring. -/
theorem round_drains_backlog (events : List Event) (now : Timestamp) {s : Session}
    (hs : (run {} events).session = some s) (hreceiving : s.receiving = true) :
    let e := run {} events
    ∃ ring, e.source? = some ring ∧ ring.closed = false ∧
      let k := ring.backlog
      k ≤ ring.blockCount
        ∧ (∀ i < k, ring.ready (ring.ahead i) = true)
        ∧ (k < ring.blockCount → ring.ready (ring.ahead k) = false)
        ∧ e.round now .ready = (List.range k).foldl (absorb s now ring) e
        ∧ (∃ after, (e.round now .ready).sources = after :: e.sources.tail
            ∧ after.cursor = (ring.cursor + k) % ring.blockCount
            ∧ after.blockSize = ring.blockSize ∧ after.blockCount = ring.blockCount
            ∧ after.closed = false ∧ after.region.size = ring.region.size
            ∧ (∀ i < k, after.ready (ring.ahead i) = false)
            ∧ ∀ a, (∀ i < k, a < ring.ahead i * ring.blockSize + 8
                  ∨ ring.ahead i * ring.blockSize + 12 ≤ a) →
                after.region.byte a = ring.region.byte a)
        ∧ (e.round now .ready).counters.errors = e.counters.errors
            + ((List.range k).countP fun i => (ring.block (ring.ahead i)).walk.fault.isSome)
        ∧ (k = 0 → e.round now .ready = e)
        ∧ e.round now .timedOut = e ∧ e.round now .interrupted = e
        ∧ e.round now .failed = { e with
          counters := { e.counters with errors := e.counters.errors + 1 } }
        ∧ ∀ look ∈ ring.looks ring.blockCount,
            look.closed = false ∧ look.process.result ≠ .error .ringClosed := by
  intro e
  have ho : Orderly e := Orderly.new.run events
  have hsound : Sound e := sound_new.run events
  have hsession : e.session = some s := hs
  obtain ⟨ring, hring, hopen⟩ := ho.exists_source (by rw [hsession]; rfl)
  have hw := hsound.source hring
  have hready : e.round now .ready = (List.range ring.backlog).foldl (absorb s now ring) e := by
    rw [← drain_eq_absorb hw hopen hring]
    simp [round, hsession, hreceiving, hring]
  have htimedOut : e.round now .timedOut = e := by simp [round, hsession]
  have hinterrupted : e.round now .interrupted = e := by simp [round, hsession]
  have hfailed : e.round now .failed = e.countError := by simp [round, hsession, hreceiving]
  obtain ⟨hsize, hcount, hclosed, hlength⟩ := ring.givenBack_frame ring.backlog
  refine ⟨ring, hring, hopen, ring.backlog_le, fun i => ring.ready_of_lt_backlog,
    ring.not_ready_backlog, hready, ⟨ring.givenBack ring.backlog, ?_, hw.cursor_givenBack _, hsize,
      hcount, hclosed.trans hopen, hlength, fun i => hw.not_ready_givenBack, ?_⟩, ?_, ?_, htimedOut,
    hinterrupted, hfailed, ?_⟩
  · rw [hready, absorb_foldl_frame s now hring]
  · intro a ha
    exact (hw.byte_givenBack ring.backlog a).1 ha
  · rw [hready, errors_absorb_foldl]
  · intro hzero
    rw [hready, hzero]
    rfl
  · intro look hlook
    obtain ⟨hlookWell, hstays⟩ := hw.of_mem_looks hlook
    exact ⟨hstays.trans hopen, hlookWell.result_ne_ringClosed (hstays.trans hopen)⟩

/-- A session over two blocks, both of them the consumer's; the first one declares a record that
does not lie inside it. -/
def malformedFirst : List Event :=
  let host := Platform.replay "host"
    [{ name := "eth0", index := 2, mtu := 1500, flags := { up := true } }]
    none [(8, [1, 0, 0, 0, 1, 0, 0, 0]), (4104, [1, 0, 0, 0])]
  [.start host ⟨0, 0⟩ "eth0" { blockSize := 4096, blockCount := 2 } (.ok ())]

theorem round_drains_backlog_malformedFirst :
    ∃ s, (run {} malformedFirst).session = some s ∧ s.receiving = true
      ∧ ∃ ring, (run {} malformedFirst).source? = some ring ∧ ring.backlog = 2
        ∧ ((run {} malformedFirst).round ⟨0, 0⟩ .ready).counters.errors = 1
        ∧ ∃ after, ((run {} malformedFirst).round ⟨0, 0⟩ .ready).sources = [after]
          ∧ after.cursor = 0 := by
  obtain ⟨s, hs⟩ : ∃ s, (run {} malformedFirst).session = some s := ⟨_, rfl⟩
  have hreceiving : s.receiving = true := by
    rw [← Option.some.inj hs]
  obtain ⟨ring, hring, -, -, -, -, -, ⟨after, hafter, hcursor, -⟩, herrors, -⟩ :=
    round_drains_backlog malformedFirst ⟨0, 0⟩ hs hreceiving
  obtain ⟨found, hfound, hcount, hbegin, hbacklog, hfaults⟩ :
      ∃ ring, (run {} malformedFirst).source? = some ring ∧ ring.blockCount = 2 ∧ ring.cursor = 0
        ∧ ring.backlog = 2
        ∧ ((List.range 2).countP fun i => (ring.block (ring.ahead i)).walk.fault.isSome) = 1 :=
    ⟨_, rfl, rfl, rfl, by decide +kernel, by decide +kernel⟩
  obtain rfl := Option.some.inj (hfound.symm.trans hring)
  rw [hbacklog] at hcursor herrors
  rw [hbegin, hcount] at hcursor
  rw [hfaults] at herrors
  exact ⟨s, hs, hreceiving, _, hring, hbacklog, herrors, after, hafter, hcursor⟩

end Engine

end LinkTap
