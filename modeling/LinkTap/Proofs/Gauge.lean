/-
What a gauge shows.

A gauge is sent two kinds of updates, can be switched on and off, and can be cleared. Of all that
ever happened to it only a little is left in what it shows, and this little is told from the history
alone. An update counts if the gauge was on when it arrived and was not cleared since. Of each kind
the gauge shows the last update that counts, or nothing if none does. Whether it is on is decided by
the last switching, and nothing but switching has a say in it.

The two kinds go the same way and do not meet. Which updates count is therefore defined for any
kind, and that the last one is shown is proved once, from what a single event does to a reading.
-/
import Mathlib.Data.List.Basic
import Mathlib.Data.List.Induction
import LinkTap.Metrics.Sink
import LinkTap.Proofs.LastWritten

set_option autoImplicit false

namespace LinkTap

/-- A session has no age exactly if it does not begin before the present. -/
theorem Timestamp.elapsed_eq_zero_iff (start now : Timestamp) :
    start.elapsed now = 0 ↔ now.toNanos ≤ start.toNanos := by
  unfold elapsed
  omega

namespace Metrics.Gauge

/-! ## Events -/

/-- What can happen to a gauge. Updates arrive at time `now`. -/
inductive Event where
  | capture (now : Timestamp) (update : Update)
  | process (now : Timestamp) (memoryMb : Float) (threads : Nat)
  | enable
  | disable
  | reset

/-- The gauge after one event. -/
def step (g : Gauge) : Event → Gauge
  | .capture now update => g.recordCapture now update
  | .process now memoryMb threads => g.recordProcess now memoryMb threads
  | .enable => g.enable
  | .disable => g.disable
  | .reset => g.reset

/-- The gauge after a list of events. -/
def run (g : Gauge) (events : List Event) : Gauge := events.foldl step g

namespace Event

/-- The session report that arrives. -/
def report? : Event → Option (Timestamp × Update)
  | capture now update => some (now, update)
  | _ => none

/-- The process reading that arrives. -/
def sample? : Event → Option (Timestamp × Float × Nat)
  | process now memoryMb threads => some (now, memoryMb, threads)
  | _ => none

/-- Where the switch is put. -/
def switch? : Event → Option Bool
  | enable => some true
  | disable => some false
  | _ => none

def isReset : Event → Bool
  | reset => true
  | _ => false

end Event

/-! ## Histories -/

/-- Where the switch of a new gauge stands after some events: where the last switching put it, and
on if there was none. -/
def switchedOn (events : List Event) : Bool := (events.filterMap Event.switch?).getLast?.getD true

/-- Whether an update counts that came as the event at place `k`: the gauge was on before it, and no
reset came behind it. -/
def counts (events : List Event) (k : Nat) : Bool :=
  switchedOn (events.take k) && (events.drop (k + 1)).all (!·.isReset)

variable {α β : Type}

/-- The updates of one kind that count, in order. -/
def counted (kind? : Event → Option α) (events : List Event) : List α :=
  (List.range events.length).filterMap fun k =>
    if counts events k then events[k]?.bind kind? else none

/-- A later event takes away what counted only if it is a reset. -/
theorem counts_concat_of_lt {events : List Event} {k : Nat} (hk : k < events.length) (e : Event) :
    counts (events ++ [e]) k = (!e.isReset && counts events k) := by
  unfold counts
  rw [List.take_append_of_le_length (Nat.le_of_lt hk), List.drop_append_of_le_length hk,
    List.all_append, List.all_cons, List.all_nil, Bool.and_true]
  cases e.isReset
  · rw [Bool.not_false, Bool.and_true, Bool.true_and]
  · rw [Bool.not_true, Bool.and_false, Bool.and_false, Bool.false_and]

/-- The last event counts if it finds the switch on. -/
theorem counts_concat_length (events : List Event) (e : Event) :
    counts (events ++ [e]) events.length = switchedOn events := by
  simp [counts]

theorem counted_concat (kind? : Event → Option α) (events : List Event) (e : Event) :
    counted kind? (events ++ [e])
      = (if e.isReset then [] else counted kind? events)
        ++ if switchedOn events then (kind? e).toList else [] := by
  unfold counted
  rw [List.length_append, List.length_singleton, List.range_succ, List.filterMap_append]
  congr 1
  · -- The events before stand where they stood, and only a reset makes a difference to them.
    have hbefore : ∀ k ∈ List.range events.length,
        (if counts (events ++ [e]) k then (events ++ [e])[k]?.bind kind? else none)
          = if !e.isReset && counts events k then events[k]?.bind kind? else none := by
      intro k hk
      have hlt : k < events.length := List.mem_range.mp hk
      rw [counts_concat_of_lt hlt, List.getElem?_append_left hlt]
    rw [List.filterMap_congr hbefore]
    cases e.isReset <;> simp
  · simp only [List.filterMap_cons, List.filterMap_nil, counts_concat_length,
      List.getElem?_concat_length, Option.bind_some]
    cases switchedOn events <;> cases kind? e <;> simp

/-! ## Updates -/

/-- What a session report makes a gauge show. -/
def ofReport : Timestamp × Update → CaptureReading
  | (now, u) =>
    { statistics := u.statistics, startedAt := some u.startedAt, uptime := u.startedAt.elapsed now }

/-- What a process reading makes a gauge show. -/
def ofSample : Timestamp × Float × Nat → ProcessReading
  | (now, memoryMb, threads) => { memoryMb, threads, updatedAt := some now }

theorem recordCapture_eq (g : Gauge) (now : Timestamp) (u : Update) :
    g.recordCapture now u
      = { g with capture := if g.enabled then ofReport (now, u) else g.capture } := by
  unfold recordCapture
  split <;> rfl

theorem recordProcess_eq (g : Gauge) (now : Timestamp) (memoryMb : Float) (threads : Nat) :
    g.recordProcess now memoryMb threads
      = { g with
          process := if g.enabled then ofSample (now, memoryMb, threads) else g.process } := by
  unfold recordProcess
  split <;> rfl

/-! ## Runs -/

theorem run_concat (g : Gauge) (events : List Event) (e : Event) :
    g.run (events ++ [e]) = (g.run events).step e :=
  List.foldl_append

/-- An event puts the switch somewhere or leaves it alone. -/
theorem enabled_step (g : Gauge) (e : Event) : (g.step e).enabled = e.switch?.getD g.enabled := by
  cases e with
  | capture now update =>
    rw [step, recordCapture_eq]
    rfl
  | process now memoryMb threads =>
    rw [step, recordProcess_eq]
    rfl
  | enable | disable | reset => rfl

theorem enabled_run (events : List Event) : (run {} events).enabled = switchedOn events :=
  foldl_last_written enabled (fun _ => True) (fun _ _ => id)
    (fun g e _ => enabled_step g e) events trivial

/-- A reading of a gauge that is made of the updates of one kind: an update that finds the gauge on
replaces it, a reset clears it, and nothing else touches it. -/
def MadeOf (kind? : Event → Option α) (make : α → β) (shown : Gauge → β) : Prop :=
  ∀ (g : Gauge) (e : Event), shown (g.step e) =
    ((if g.enabled then kind? e else none).map make).getD (if e.isReset then shown {} else shown g)

theorem madeOf_capture : MadeOf Event.report? ofReport capture := by
  intro g e
  cases e with
  | capture now update =>
    rw [step, recordCapture_eq]
    by_cases hon : g.enabled <;> simp [hon, Event.report?, Event.isReset]
  | process now memoryMb threads =>
    rw [step, recordProcess_eq]
    by_cases hon : g.enabled <;> simp [hon, Event.report?, Event.isReset]
  | enable | disable | reset => simp [step, enable, disable, reset, Event.report?, Event.isReset]

theorem madeOf_process : MadeOf Event.sample? ofSample process := by
  intro g e
  cases e with
  | capture now update =>
    rw [step, recordCapture_eq]
    by_cases hon : g.enabled <;> simp [hon, Event.sample?, Event.isReset]
  | process now memoryMb threads =>
    rw [step, recordProcess_eq]
    by_cases hon : g.enabled <;> simp [hon, Event.sample?, Event.isReset]
  | enable | disable | reset => simp [step, enable, disable, reset, Event.sample?, Event.isReset]

variable {kind? : Event → Option α} {make : α → β} {shown : Gauge → β}

/-- The induction takes the last event off, since a history counts from its end. -/
theorem MadeOf.shown_run (h : MadeOf kind? make shown) (events : List Event) :
    shown (run {} events) = ((counted kind? events).getLast?.map make).getD (shown {}) := by
  induction events using List.reverseRecOn with
  | nil => rfl
  | append_singleton events e ih =>
    rw [run_concat, h, enabled_run, counted_concat, ih]
    -- Either the last event counts and is the last that
    -- does, or it leaves what was there or clears it.
    cases switchedOn events <;> cases kind? e <;> cases e.isReset <;> simp

/-- Events of other kinds can be left out as long as they neither switch nor clear. -/
theorem MadeOf.run_filter (h : MadeOf kind? make shown) {keep : Event → Bool}
    (hkeep : ∀ e, keep e = false → kind? e = none ∧ e.switch? = none ∧ e.isReset = false)
    (events : List Event) :
    shown (run {} (events.filter keep)) = shown (run {} events)
      ∧ (run {} (events.filter keep)).enabled = (run {} events).enabled := by
  induction events using List.reverseRecOn with
  | nil => exact ⟨rfl, rfl⟩
  | append_singleton events e ih =>
    obtain ⟨hshown, henabled⟩ := ih
    rw [List.filter_append, run_concat, h, enabled_step]
    -- The switch goes into the induction, since it tells which of the later updates count.
    by_cases he : keep e
    · rw [List.filter_cons_of_pos he, List.filter_nil, run_concat, h, enabled_step, hshown,
        henabled]
      exact ⟨rfl, rfl⟩
    · obtain ⟨hkind, hswitch, hreset⟩ := hkeep e (by simpa using he)
      simp [he, hshown, henabled, hkind, hswitch, hreset]

/-! ## What is shown -/

/-- **A gauge shows the last update that counts.** After any events a new gauge is on or off as the
last switching left it, and neither updates nor resets have a say in it. Of the session reports it
shows the last one that found it on and was not cleared since: its statistics, its start, and the
age of the session when the report arrived, which is zero for a session that starts in the future.
If there is no such report it shows the defaults. The same holds of process readings, and the two do
not meet: leaving out all reports changes nothing in what is shown of the process, and leaving out
all process readings nothing in what is shown of the session. -/
theorem shows_last_counted (events : List Event) :
    let g := run {} events
    let reports := counted Event.report? events
    let samples := counted Event.sample? events
    g.enabled = switchedOn events
      ∧ (∀ e : Event, e.switch? = none → (g.step e).enabled = g.enabled)
      ∧ (reports.getLast? = none → g.capture = {})
      ∧ (∀ now u, reports.getLast? = some (now, u) →
          g.capture.statistics = u.statistics ∧ g.capture.startedAt = some u.startedAt
            ∧ (g.capture.uptime : Int) = max 0 (now.toNanos - u.startedAt.toNanos)
            ∧ (now.toNanos ≤ u.startedAt.toNanos → g.capture.uptime = 0))
      ∧ (samples.getLast? = none → g.process = {})
      ∧ (∀ now memoryMb threads, samples.getLast? = some (now, memoryMb, threads) →
          g.process = { memoryMb, threads, updatedAt := some now })
      ∧ (run {} (events.filter (·.report?.isNone))).process = g.process
      ∧ (run {} (events.filter (·.sample?.isNone))).capture = g.capture := by
  intro g reports samples
  -- Both readings as functions of the history; the rest reads off what they come to.
  have hcapture : g.capture = (reports.getLast?.map ofReport).getD {} :=
    madeOf_capture.shown_run events
  have hprocess : g.process = (samples.getLast?.map ofSample).getD {} :=
    madeOf_process.shown_run events
  refine ⟨enabled_run events, ?_, ?_, ?_, ?_, ?_, ?_, ?_⟩
  · intro e he
    rw [enabled_step, he]
    rfl
  · intro hnone
    rw [hcapture, hnone]
    rfl
  · intro now u hlast
    have hshown : g.capture = ofReport (now, u) := by
      rw [hcapture, hlast]
      rfl
    rw [hshown]
    refine ⟨rfl, rfl, ?_, ?_⟩
    · show ((now.toNanos - u.startedAt.toNanos).toNat : Int) = _
      omega
    · exact (u.startedAt.elapsed_eq_zero_iff now).mpr
  · intro hnone
    rw [hprocess, hnone]
    rfl
  · intro now memoryMb threads hlast
    rw [hprocess, hlast]
    rfl
  -- A report is no process reading, nor does it switch or clear, and the other way round.
  · refine (madeOf_process.run_filter ?_ events).1
    intro e he
    cases e <;> simp [Event.report?, Event.sample?, Event.switch?, Event.isReset] at he ⊢
  · refine (madeOf_capture.run_filter ?_ events).1
    intro e he
    cases e <;> simp [Event.report?, Event.sample?, Event.switch?, Event.isReset] at he ⊢

/-- An update that finds the gauge off does not count, and switching it on again does not change
that. -/
example (now : Timestamp) (memoryMb : Float) :
    counted Event.sample?
        [.process now memoryMb 1, .process now memoryMb 2, .disable, .process now memoryMb 3,
          .enable]
      = [(now, memoryMb, 1), (now, memoryMb, 2)] := rfl

end Metrics.Gauge

end LinkTap
