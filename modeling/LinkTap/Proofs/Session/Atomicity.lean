/-
What a failed call leaves behind.

A call that is refused, because a session is active or because none is, changes nothing at all.
Neither does a start that fails while it acquires what it needs: the settings, the interface and the
source are looked at before anything of the engine is replaced. Only at the launch of the receive
loop the engine has already begun afresh. When that fails, the source that was opened is released
again, and what stays is an idle engine with zero counters and a new queue, from which receivers of
older queues are cut off.

So a failure never stands in the way of a later start. Its outcome depends on what it is given and
on whether a session is active, and on nothing that happened before.
-/
import LinkTap.Proofs.Session.Lifecycle

set_option autoImplicit false

namespace LinkTap

/-! ## Fresh rings -/

/-- No block of zeroed memory is the consumer's. -/
theorem Ring.readyCount_of_zeroed {size blockSize blockCount : Nat} {ring : Ring}
    (h : Ring.create (Region.zeroed size) blockSize blockCount = .ok ring) :
    ring.readyCount = 0 := by
  obtain ⟨rfl, hw⟩ := Ring.create_eq_ok h
  rw [Ring.readyCount, if_neg Bool.false_ne_true, List.countP_eq_zero]
  intro i hi
  rw [hw.ready_eq (List.mem_range.mp hi)]
  exact Bool.false_ne_true

/-- A ring that was just opened holds nothing to hand on. -/
theorem Platform.readyCount_of_openRing {p : Platform} {i : Interface} {settings : SessionSettings}
    {ring : Ring} {size : Nat} (hmap : p.mapRing i settings = .ok (Region.zeroed size))
    (h : p.openRing i settings = .ok ring) : ring.readyCount = 0 := by
  unfold openRing at h
  rw [hmap] at h
  exact Ring.readyCount_of_zeroed h

namespace Engine

variable {e : Engine} {platform : Platform} {now : Timestamp} {target : String}
  {settings : SessionSettings} {thread : Except Error Unit} {err : Error} {i : Interface}
  {ring : Ring}

/-! ## Acquiring -/

/-- Nothing is acquired with settings that are not valid, whatever the target. -/
theorem acquire_of_invalid (hvalid : settings.validate = .error err) :
    acquire platform target settings = .error err := by
  unfold acquire
  rw [hvalid]
  rfl

/-- The target is looked up next. -/
theorem acquire_of_unresolved (hvalid : settings.validate = .ok ())
    (hresolve : platform.resolve target = .error err) :
    acquire platform target settings = .error err := by
  unfold acquire
  rw [hvalid, hresolve]
  rfl

/-- The source is opened last. -/
theorem acquire_of_unopened (hvalid : settings.validate = .ok ())
    (hresolve : platform.resolve target = .ok i)
    (hopen : platform.openRing i settings = .error err) :
    acquire platform target settings = .error err := by
  unfold acquire
  rw [hvalid, hresolve]
  simp only [bind, Except.bind, hopen]

theorem acquire_of_opened (hvalid : settings.validate = .ok ())
    (hresolve : platform.resolve target = .ok i) (hopen : platform.openRing i settings = .ok ring) :
    acquire platform target settings = .ok (i, ring) := by
  unfold acquire
  rw [hvalid, hresolve]
  simp only [bind, Except.bind, hopen]
  rfl

/-! ## Calls at the wrong time -/

theorem start_of_active (hsome : e.session.isSome = true) :
    e.start platform now target settings thread = (e, .error .engineRunning) := by
  rw [start, if_pos hsome]

theorem stop_of_none (hnone : e.session = none) : e.stop = (e, .error .engineNotStarted) := by
  rw [stop, hnone]

/-! ## Launching -/

/-- Once everything is acquired, a start is a launch. -/
theorem start_of_acquired (hnone : e.session = none)
    (hacquire : acquire platform target settings = .ok (i, ring)) :
    e.start platform now target settings thread =
      launch { e with phase := .starting } now i ring settings thread := by
  have hfree : ¬ e.session.isSome = true := by
    rw [hnone]
    exact Bool.false_ne_true
  rw [start, if_neg hfree, hacquire]

/-- A launch that fails leaves an idle engine that has begun afresh, with the source released. -/
theorem start_of_launch_error (hnone : e.session = none)
    (hacquire : acquire platform target settings = .ok (i, ring)) :
    e.start platform now target settings (.error err) =
      ({ e with
          phase := .idle
          counters := {}
          queue := e.freshQueue settings.queueCapacity
          retired := e.queue :: e.retired
          sources := ring.close :: e.sources }, .error err) := by
  rw [start_of_acquired hnone hacquire]
  rfl

/-- A launch that succeeds leaves a running engine that has begun afresh, with its source open. -/
theorem start_of_launch_ok (hnone : e.session = none)
    (hacquire : acquire platform target settings = .ok (i, ring)) :
    e.start platform now target settings (.ok ()) =
      ({ e with
          phase := .running
          counters := {}
          queue := e.freshQueue settings.queueCapacity
          retired := e.queue :: e.retired
          sources := ring :: e.sources
          session := some ⟨i, e.queue.generation + 1, now, true⟩ }, .ok ()) := by
  rw [start_of_acquired hnone hacquire]
  rfl

/-- The queue is replaced before the launch, whatever becomes of it. -/
theorem queue_start_of_acquired (hnone : e.session = none)
    (hacquire : acquire platform target settings = .ok (i, ring)) :
    (e.start platform now target settings thread).1.queue
      = e.freshQueue settings.queueCapacity := by
  cases thread with
  | error err => rw [start_of_launch_error hnone hacquire]
  | ok u => rw [start_of_launch_ok hnone hacquire]

/-! ## Receivers -/

/-- Queues are replaced by later ones. -/
theorem Orderly.generation_le_step (h : Orderly e) (event : Event) :
    e.queue.generation ≤ (e.step event).queue.generation := by
  cases event with
  | start platform now target settings thread =>
    rw [Engine.step]
    rcases e.start_cases platform now target settings thread with
      ⟨-, hstart⟩ | ⟨-, err, -, hstart⟩ | ⟨-, i, ring, -, ⟨err, -, hstart⟩ | ⟨-, hstart⟩⟩
    · exact Nat.le_of_eq (by rw [hstart])
    · exact Nat.le_of_eq (by rw [hstart])
    · rw [hstart]
      exact Nat.le_succ _
    · rw [hstart]
      exact Nat.le_succ _
  | stop =>
    rw [Engine.step]
    rcases e.stop_cases with ⟨-, hstop⟩ | ⟨-, hstop⟩
    · exact Nat.le_of_eq (by rw [hstop])
    · rw [hstop]
      exact Nat.le_succ _
  | round now wait => exact Nat.le_of_eq (e.undisturbed_round now wait).generation.symm
  | write offset data => exact Nat.le_of_eq (e.undisturbed_write offset data).generation.symm
  | receive receiver => exact Nat.le_of_eq (h.undisturbed_receive receiver).generation.symm
  | installSink target => exact Nat.le_refl _
  | takeJournal => exact Nat.le_refl _
  | setGauge gauge => exact Nat.le_refl _

theorem Orderly.generation_le_run (h : Orderly e) (events : List Event) :
    e.queue.generation ≤ (e.run events).queue.generation := by
  induction events generalizing e with
  | nil => exact Nat.le_refl _
  | cons event events ih => exact Nat.le_trans (h.generation_le_step event) (ih (h.step event))

/-- Once the queue was replaced, every receiver taken before is cut off. -/
theorem receive_of_replaced {events earlier later : List Event} {e' : Engine} (h : Orderly e')
    (hsplit : events = earlier ++ later)
    (hgeneration : (run {} events).queue.generation < e'.queue.generation) :
    e'.receive (run {} earlier).receiver = (e', .disconnected) := by
  -- The receiver names the generation of its time, and the queue has moved on since.
  refine h.receive_of_ne fun hsame => ?_
  have hrun : run {} events = (run {} earlier).run later := by
    rw [hsplit, run, run, run, List.foldl_append]
  have hle := (Orderly.new.run earlier).generation_le_run later
  have hequal : (run {} earlier).queue.generation = e'.queue.generation :=
    congrArg Receiver.generation hsame
  rw [hrun] at hgeneration
  omega

/-! ## Failed calls -/

/-- **Failed calls are atomic.** After any run of a new engine: a start of a running engine and a
stop of an idle one are refused and change nothing. A start of an idle engine whose settings are not
in order, whose target denotes no interface or for which no source can be opened fails with that
error and changes nothing either. If only the receive loop cannot be launched, the source is
released again and the engine stays idle with zero statistics. If that succeeds too, so does the
start, and the engine runs on the new source with zero counters and the utilization of the new ring,
none of whose blocks waits if its memory is zeroed. In both cases the queue is empty and has the
capacity asked for, and every receiver taken before is disconnected. -/
theorem failed_calls_atomic (events : List Event) (platform : Platform) (now : Timestamp)
    (target : String) (settings : SessionSettings) (thread : Except Error Unit) :
    let e := run {} events
    let called := e.start platform now target settings thread
    (e.phase = .running → called = (e, .error .engineRunning))
      ∧ (e.phase = .idle →
          e.stop = (e, .error .engineNotStarted)
          ∧ (∀ err, settings.validate = .error err → called = (e, .error err))
          ∧ (∀ err, settings.validate = .ok () → platform.resolve target = .error err →
              called = (e, .error err))
          ∧ (∀ i err, settings.validate = .ok () → platform.resolve target = .ok i →
              platform.openRing i settings = .error err → called = (e, .error err))
          ∧ ∀ i ring, settings.validate = .ok () → platform.resolve target = .ok i →
              platform.openRing i settings = .ok ring →
              (∀ err, thread = .error err →
                  called.2 = .error err ∧ called.1.phase = .idle ∧ called.1.interface? = none
                    ∧ called.1.sources = ring.close :: e.sources
                    ∧ called.1.statistics = .ofCounters {} 0)
              ∧ (thread = .ok () →
                  called.2 = .ok () ∧ called.1.phase = .running ∧ called.1.interface? = some i
                    ∧ called.1.sources = ring :: e.sources
                    ∧ called.1.statistics = .ofCounters {} ring.utilization
                    ∧ ∀ size, platform.mapRing i settings = .ok (Region.zeroed size) →
                        ring.readyCount = 0)
              ∧ called.1.queue.packets = [] ∧ called.1.queue.capacity = settings.queueCapacity
              ∧ ∀ earlier later, events = earlier ++ later →
                  called.1.receive (run {} earlier).receiver = (called.1, .disconnected)) := by
  intro e called
  have h : Orderly e := Orderly.new.run events
  refine ⟨fun hrunning => start_of_active (h.running_iff.mp hrunning), fun hidle => ?_⟩
  have hnone : e.session = none := h.idle_iff.mp hidle
  refine ⟨stop_of_none hnone, fun err hvalid => ?_, fun err hvalid hresolve => ?_,
    fun i err hvalid hresolve hopen => ?_, fun i ring hvalid hresolve hopen => ?_⟩
  · exact h.start_of_acquire_error hnone (acquire_of_invalid hvalid)
  · exact h.start_of_acquire_error hnone (acquire_of_unresolved hvalid hresolve)
  · exact h.start_of_acquire_error hnone (acquire_of_unopened hvalid hresolve hopen)
  -- The source is open, and only the launch is left to fail.
  have hacquire := acquire_of_opened hvalid hresolve hopen
  have hcalled : Orderly called.1 := h.start platform now target settings thread
  have hqueue : called.1.queue = e.freshQueue settings.queueCapacity :=
    queue_start_of_acquired hnone hacquire
  refine ⟨fun err herr => ?_, fun hok => ?_, ?_, ?_, fun earlier later hsplit => ?_⟩
  · subst herr
    have hstart : called = _ := start_of_launch_error hnone hacquire
    rw [hstart]
    refine ⟨rfl, rfl, ?_, rfl, ?_⟩
    · rw [interface?, hnone]
      rfl
    · rw [statistics, activeSource?, hnone]
      rfl
  · subst hok
    have hstart : called = _ := start_of_launch_ok hnone hacquire
    rw [hstart]
    exact ⟨rfl, rfl, rfl, rfl, rfl, fun size hmap => Platform.readyCount_of_openRing hmap hopen⟩
  · rw [hqueue]
    rfl
  · rw [hqueue]
    rfl
  · refine receive_of_replaced hcalled hsplit ?_
    rw [hqueue]
    exact Nat.lt_succ_self _

end Engine

end LinkTap
