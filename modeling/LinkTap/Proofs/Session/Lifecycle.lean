/-
The life of capture sessions.

The phase of an engine, the session that it stores and the sources that it has open change at
different moments of a start and of a stop, and a start can fail after some of them have changed.
Between two operations they nevertheless agree: the engine is running and has exactly its latest
source open, or it is idle and has none open.

Only a start or a stop changes any of this. Whatever else happens to an engine (rounds of the
receive loop, writes of the kernel, attempts to receive, changes of the sinks) leaves the phase, the
interface and the open sources alone, and that is settled once, as a relation between two engines,
before the invariant is looked at.
-/
import LinkTap.Proofs.Ring.Run
import LinkTap.Proofs.Session.Run

set_option autoImplicit false

namespace LinkTap

/-- A source that was just opened is open. -/
theorem Platform.closed_of_openRing {p : Platform} {i : Interface} {settings : SessionSettings}
    {ring : Ring} (h : p.openRing i settings = .ok ring) : ring.closed = false := by
  unfold openRing at h
  cases hmap : p.mapRing i settings with
  | error err =>
    rw [hmap] at h
    cases h
  | ok region =>
    rw [hmap] at h
    rw [(Ring.create_eq_ok h).1]

namespace Engine

variable {e e' : Engine}

/-! ## What neither starts nor stops a session -/

/-- From `e` to `e'` no session began or ended. -/
structure Undisturbed (e e' : Engine) : Prop where
  phase : e'.phase = e.phase
  interface : e'.interface? = e.interface?
  closed : e'.sources.map Ring.closed = e.sources.map Ring.closed
  generation : e'.queue.generation = e.queue.generation
  retired : e'.retired = e.retired
  /-- Packets are queued on behalf of a session only. -/
  packets : e.session = none → e.queue.packets = [] → e'.queue.packets = []

namespace Undisturbed

theorem refl (e : Engine) : Undisturbed e e := ⟨rfl, rfl, rfl, rfl, rfl, fun _ h => h⟩

/-- Whether a session is active may be told by the interface that is shown. -/
theorem session_isSome (h : Undisturbed e e') : e'.session.isSome = e.session.isSome := by
  have hinterface := congrArg Option.isSome h.interface
  rwa [interface?, interface?, Option.isSome_map, Option.isSome_map] at hinterface

theorem session_eq_none_iff (h : Undisturbed e e') : e'.session = none ↔ e.session = none := by
  rw [← Option.not_isSome_iff_eq_none, h.session_isSome, Option.not_isSome_iff_eq_none]

theorem trans {e'' : Engine} (h : Undisturbed e e') (h' : Undisturbed e' e'') :
    Undisturbed e e'' :=
  ⟨h'.phase.trans h.phase, h'.interface.trans h.interface, h'.closed.trans h.closed,
    h'.generation.trans h.generation, h'.retired.trans h.retired,
    fun hnone hempty =>
      h'.packets (h.session_eq_none_iff.mpr hnone) (h.packets hnone hempty)⟩

/-- The latest source is replaced by a later state of itself. -/
theorem setSource {ring ring' : Ring} (hring : e.source? = some ring)
    (hclosed : ring'.closed = ring.closed) : Undisturbed e (e.setSource ring') := by
  refine ⟨rfl, rfl, ?_, rfl, rfl, fun _ h => h⟩
  -- Without a latest source there would be nothing to replace, and the list would grow.
  obtain ⟨rest, hsources⟩ : ∃ rest, e.sources = ring :: rest := List.head?_eq_some_iff.mp hring
  simp only [Engine.setSource, hsources, List.tail_cons, List.map_cons, hclosed]

end Undisturbed

/-- A queue that takes a packet stays the queue of its session. -/
theorem generation_of_enqueue? {s : Session} {p : Packet} {queue : Queue}
    (h : e.enqueue? s p = some queue) : queue.generation = e.queue.generation := by
  unfold enqueue? Queue.push? at h
  split at h
  · split at h
    · rw [← Option.some.inj h]
    · cases h
  · cases h

/-- A record that is handed on may fill the queue of a session, and does no more than that. -/
theorem undisturbed_deliver (hsome : e.session.isSome) (s : Session) (now : Timestamp)
    (utilization : Float) (record : Ring.Record) :
    Undisturbed e (deliver s now utilization e record) := by
  -- The queue may grow here, but not between sessions.
  have hpackets : ∀ e' : Engine, e.session = none → e.queue.packets = [] →
      e'.queue.packets = [] := by
    intro e' hnone
    rw [hnone] at hsome
    cases hsome
  unfold deliver
  split
  · exact .refl e
  · dsimp only
    split
    · exact ⟨rfl, rfl, rfl, rfl, rfl, hpackets _⟩
    · rename_i queue hqueue
      exact ⟨rfl, rfl, rfl, generation_of_enqueue? hqueue, rfl, hpackets _⟩

/-- Nor is the course disturbed by all records of a block. -/
theorem undisturbed_deliver_foldl (hsome : e.session.isSome) (s : Session) (now : Timestamp)
    (utilization : Float) (records : List Ring.Record) :
    Undisturbed e (records.foldl (deliver s now utilization) e) := by
  induction records generalizing e with
  | nil => exact .refl e
  | cons record records ih =>
    have hfirst := undisturbed_deliver hsome s now utilization record
    exact hfirst.trans (ih (hfirst.session_isSome.trans hsome))

/-- A look at the latest source does not release it. -/
theorem undisturbed_handle (hsome : e.session.isSome) (s : Session) (now : Timestamp) {ring : Ring}
    (hring : e.source? = some ring) : Undisturbed e (handle s now e ring) := by
  have hlooked := Undisturbed.setSource hring (Ring.process_closed ring)
  have hsome' : (e.setSource ring.process.ring).session.isSome := hsome
  have hdelivered := hlooked.trans
    (undisturbed_deliver_foldl hsome' s now ring.utilization ring.process.records)
  unfold handle
  dsimp only
  split
  · exact ⟨hdelivered.phase, hdelivered.interface, hdelivered.closed, hdelivered.generation,
      hdelivered.retired, hdelivered.packets⟩
  · exact hdelivered

/-- The looks of a round, each at what the one before it left. -/
theorem undisturbed_looks (hsome : e.session.isSome) (s : Session) (now : Timestamp) (limit : Nat)
    {ring : Ring} (hring : e.source? = some ring) :
    Undisturbed e ((ring.looks limit).foldl (handle s now) e) := by
  induction limit generalizing e ring with
  | zero => exact .refl e
  | succ limit ih =>
    have hlook := undisturbed_handle hsome s now hring
    have hnext : (handle s now e ring).source? = some ring.process.ring := by
      rw [source?, (handle_frame s now e ring).1]
      rfl
    rw [Ring.looks, List.foldl_cons]
    split
    · exact hlook.trans (ih (hlook.session_isSome.trans hsome) hnext)
    · exact hlook

/-- A round works for a session that is there already. It neither begins nor ends one. -/
theorem undisturbed_round (e : Engine) (now : Timestamp) (wait : Wait) :
    Undisturbed e (e.round now wait) := by
  unfold round
  cases hs : e.session with
  | none => exact .refl e
  | some s =>
    have hsome : e.session.isSome := by rw [hs]; rfl
    have hpackets : e.session = none → e.queue.packets = [] → e.queue.packets = [] := fun _ h => h
    dsimp only
    split
    · exact .refl e
    cases wait with
    | ready =>
      dsimp only
      split
      · rename_i ring hring
        rw [drain_eq_foldl s now hring]
        exact undisturbed_looks hsome s now ring.blockCount hring
      · exact .refl e
    | timedOut => exact .refl e
    | interrupted => exact .refl e
    | failed => exact ⟨rfl, rfl, rfl, rfl, rfl, hpackets⟩
    | crashed =>
      -- The session is still there, without its receive loop.
      exact ⟨rfl, by rw [interface?, interface?, hs]; rfl, rfl, rfl, rfl, hpackets⟩

theorem undisturbed_write (e : Engine) (offset : Nat) (data : Bytes) :
    Undisturbed e ((e.writeMemory offset data).getD e) := by
  rcases e.write_cases offset data with hwrite | ⟨ring, region, hring, -, hwrite⟩
  · rw [hwrite]
    exact .refl e
  · rw [hwrite]
    exact .setSource hring rfl

/-! ## The invariant -/

/-- Phase, session, sources and queues agree. -/
structure Orderly (e : Engine) : Prop where
  phase : e.phase = if e.session.isSome then .running else .idle
  /-- The source of the session is open and every earlier one is released. -/
  sources : ∃ earlier, e.sources.map Ring.closed
    = (if e.session.isSome then [false] else []) ++ List.replicate earlier true
  /-- A queue that was replaced holds nothing more. -/
  retired : ∀ queue ∈ e.retired, queue.packets = []
  /-- Nothing is queued between sessions. -/
  waiting : e.session = none → e.queue.packets = []

namespace Orderly

theorem running_iff (h : Orderly e) : e.phase = .running ↔ e.session.isSome = true := by
  rw [h.phase]
  cases e.session.isSome <;> simp

theorem idle_iff (h : Orderly e) : e.phase = .idle ↔ e.session = none := by
  rw [h.phase]
  cases e.session <;> simp

theorem new : Orderly {} :=
  ⟨rfl, ⟨0, rfl⟩, fun _ h => (by cases h), fun _ => rfl⟩

/-- What does not disturb the course keeps it orderly. -/
theorem of_undisturbed (h : Orderly e) (hsame : Undisturbed e e') : Orderly e' := by
  refine ⟨?_, ?_, ?_, fun hnone => ?_⟩
  · rw [hsame.phase, hsame.session_isSome]
    exact h.phase
  · rw [hsame.closed, hsame.session_isSome]
    exact h.sources
  · rw [hsame.retired]
    exact h.retired
  · have hnone' := hsame.session_eq_none_iff.mp hnone
    exact hsame.packets hnone' (h.waiting hnone')

/-! ### Receivers -/

/-- Nothing is left for a receiver of a queue that was replaced. -/
theorem takeRetired_eq_none (generation : Nat) {queues : List Queue}
    (h : ∀ queue ∈ queues, queue.packets = []) : takeRetired generation queues = none := by
  induction queues with
  | nil => rfl
  | cons queue queues ih =>
    rw [takeRetired]
    split
    · rw [Queue.pop?, h queue (List.mem_cons_self ..)]
      rfl
    · rw [ih fun queue hqueue => h queue (List.mem_cons_of_mem _ hqueue)]
      rfl

/-- A receiver of an earlier session has nothing left to receive. -/
theorem receive_of_ne (h : Orderly e) {r : Receiver} (hr : r ≠ e.receiver) :
    e.receive r = (e, .disconnected) := by
  have hnone := takeRetired_eq_none r.generation h.retired
  rcases e.receive_cases r with ⟨hcurrent, -⟩ | ⟨-, ⟨p, retired, htaken, -⟩ | ⟨-, hreceive⟩⟩
  · exact absurd hcurrent hr
  · rw [hnone] at htaken
    cases htaken
  · exact hreceive

theorem undisturbed_receive (h : Orderly e) (r : Receiver) : Undisturbed e (e.receive r).1 := by
  rcases e.receive_cases r with ⟨-, ⟨p, rest, hpackets, hreceive⟩ | ⟨-, hreceive⟩⟩ | ⟨hr, -⟩
  · rw [hreceive]
    refine ⟨rfl, rfl, rfl, rfl, rfl, fun _ hempty => ?_⟩
    rw [hpackets] at hempty
    cases hempty
  · rw [hreceive]
    exact .refl e
  · rw [h.receive_of_ne hr]
    exact .refl e

/-! ### Starting and stopping -/

/-- A start that cannot acquire what it needs leaves the engine as it was. -/
theorem start_of_acquire_error (h : Orderly e) {platform : Platform} {now : Timestamp}
    {target : String} {settings : SessionSettings} {thread : Except Error Unit} {err : Error}
    (hnone : e.session = none) (hacquire : acquire platform target settings = .error err) :
    e.start platform now target settings thread = (e, .error err) := by
  -- The phase is put back to what it was, so nothing is left of the attempt.
  have hidle := h.idle_iff.mpr hnone
  rcases e.start_cases platform now target settings thread with
    ⟨hsome, -⟩ | ⟨-, err', herr, hstart⟩ | ⟨-, i, ring, hok, -⟩
  · rw [hnone] at hsome
    cases hsome
  · rw [hacquire] at herr
    rw [hstart, ← hidle, ← Except.error.inj herr]
  · rw [hacquire] at hok
    cases hok

theorem start (h : Orderly e) (platform : Platform) (now : Timestamp) (target : String)
    (settings : SessionSettings) (thread : Except Error Unit) :
    Orderly (e.start platform now target settings thread).1 := by
  rcases e.start_cases platform now target settings thread with
    ⟨-, hstart⟩ | ⟨hnone, err, hacquire, -⟩
    | ⟨hnone, i, ring, hacquire, ⟨err, -, hstart⟩ | ⟨-, hstart⟩⟩
  · rw [hstart]
    exact h
  · rw [h.start_of_acquire_error hnone hacquire]
    exact h
  -- Both launches retire the queue of the idle engine, which is empty.
  all_goals
    obtain ⟨earlier, hsources⟩ := h.sources
    rw [hnone] at hsources
    have hretired : ∀ queue ∈ e.queue :: e.retired, queue.packets = [] := by
      intro queue hqueue
      rcases List.mem_cons.mp hqueue with rfl | hqueue
      · exact h.waiting hnone
      · exact h.retired queue hqueue
  · -- The source that was just opened is released again and joins the earlier ones.
    rw [hstart]
    refine ⟨by rw [hnone]; rfl, ⟨earlier + 1, ?_⟩, hretired, fun _ => rfl⟩
    rw [hnone]
    exact congrArg (true :: ·) hsources
  · have hopen := Platform.closed_of_openRing (acquire_eq_ok hacquire).2.2
    rw [hstart]
    refine ⟨rfl, ⟨earlier, ?_⟩, hretired, fun hsome => by cases hsome⟩
    rw [List.map_cons, hopen, hsources]
    rfl

/-- Releasing the latest source releases the only one that is open. -/
theorem closed_closeSource (h : Orderly e) (hsome : e.session.isSome) :
    ∃ released, e.closeSource.sources.map Ring.closed = List.replicate released true := by
  obtain ⟨earlier, hsources⟩ := h.sources
  rw [if_pos hsome] at hsources
  -- An active session has a source, since one of them is open.
  obtain ⟨ring, rest, hlist⟩ : ∃ ring rest, e.sources = ring :: rest := by
    cases hlist : e.sources with
    | nil =>
      rw [hlist] at hsources
      cases hsources
    | cons ring rest => exact ⟨ring, rest, rfl⟩
  rw [hlist, List.map_cons, List.singleton_append, List.cons.injEq] at hsources
  refine ⟨earlier + 1, ?_⟩
  have hsource := source?_of_sources hlist
  rw [closeSource, hsource, List.replicate_succ]
  simp only [setSource, hlist, List.tail_cons, List.map_cons, hsources.2]
  rfl

theorem stop (h : Orderly e) : Orderly e.stop.1 := by
  rcases e.stop_cases with ⟨-, hstop⟩ | ⟨hsome, hstop⟩
  · rw [hstop]
    exact h
  · obtain ⟨released, hsources⟩ := h.closed_closeSource hsome
    rw [hstop]
    refine ⟨rfl, ⟨released, hsources⟩, fun queue hqueue => ?_, fun _ => rfl⟩
    rcases List.mem_cons.mp hqueue with rfl | hqueue
    · rfl
    · exact h.retired queue hqueue

/-! ### Runs -/

/-- Every event keeps the engine orderly. -/
theorem step (h : Orderly e) (event : Event) : Orderly (e.step event) := by
  cases event with
  | start platform now target settings thread => exact h.start platform now target settings thread
  | stop => exact h.stop
  | round now wait => exact h.of_undisturbed (e.undisturbed_round now wait)
  | write offset data => exact h.of_undisturbed (e.undisturbed_write offset data)
  | receive receiver => exact h.of_undisturbed (h.undisturbed_receive receiver)
  | installSink target => exact ⟨h.phase, h.sources, h.retired, h.waiting⟩
  | takeJournal => exact ⟨h.phase, h.sources, h.retired, h.waiting⟩
  | setGauge gauge => exact ⟨h.phase, h.sources, h.retired, h.waiting⟩

/-- So a whole run does. -/
theorem run (h : Orderly e) (events : List Event) : Orderly (e.run events) := by
  induction events generalizing e with
  | nil => exact h
  | cons event events ih => exact ih (h.step event)

end Orderly

/-! ## Sources -/

/-- How many sources are open. -/
def openSources (e : Engine) : Nat := e.sources.countP fun ring => !ring.closed

/-- Whether an event that happens to the engine `e` opens a source. -/
def opens (e : Engine) : Event → Bool
  | .start platform _ target settings _ =>
    e.session.isNone && (acquire platform target settings).isOk
  | _ => false

/-- How many sources the events open that happen to the engine `e`. -/
def openings (e : Engine) : List Event → Nat
  | [] => 0
  | event :: events => (if e.opens event then 1 else 0) + openings (e.step event) events

theorem opened_eq_of_closed_eq (h : e'.sources.map Ring.closed = e.sources.map Ring.closed) :
    e'.opened = e.opened := by
  have hlength := congrArg List.length h
  rwa [List.length_map, List.length_map] at hlength

/-- A start opens a source exactly if no session is active and everything can be acquired. -/
theorem opened_start (e : Engine) (platform : Platform) (now : Timestamp) (target : String)
    (settings : SessionSettings) (thread : Except Error Unit) :
    (e.start platform now target settings thread).1.opened
      = e.opened + if e.opens (.start platform now target settings thread) then 1 else 0 := by
  rcases e.start_cases platform now target settings thread with
    ⟨hsome, hstart⟩ | ⟨hnone, err, hacquire, hstart⟩
    | ⟨hnone, i, ring, hacquire, ⟨err, -, hstart⟩ | ⟨-, hstart⟩⟩
  · have hopens : e.opens (.start platform now target settings thread) = false := by
      rw [opens, Option.isNone_eq_false_iff.mpr hsome]
      rfl
    rw [hstart, hopens]
    rfl
  · have hopens : e.opens (.start platform now target settings thread) = false := by
      simp [opens, hacquire, Except.isOk, Except.toBool]
    rw [hstart, hopens]
    rfl
  all_goals
    have hopens : e.opens (.start platform now target settings thread) = true := by
      simp [opens, hnone, hacquire, Except.isOk, Except.toBool]
    rw [hstart, hopens]
    rfl

theorem opened_closeSource (e : Engine) : e.closeSource.opened = e.opened := by
  unfold closeSource source?
  cases hsources : e.sources with
  | nil => rfl
  | cons ring rest => simp [opened, setSource, hsources]

/-- Sources are opened by a start and never forgotten. -/
theorem Orderly.opened_step (h : Orderly e) (event : Event) :
    (e.step event).opened = e.opened + if e.opens event then 1 else 0 := by
  cases event with
  | start platform now target settings thread =>
    exact e.opened_start platform now target settings thread
  | stop =>
    rcases e.stop_cases with ⟨-, hstop⟩ | ⟨-, hstop⟩
    · rw [Engine.step, hstop]
      rfl
    · rw [Engine.step, hstop]
      exact e.opened_closeSource
  | round now wait => exact opened_eq_of_closed_eq (e.undisturbed_round now wait).closed
  | write offset data => exact opened_eq_of_closed_eq (e.undisturbed_write offset data).closed
  | receive receiver => exact opened_eq_of_closed_eq (h.undisturbed_receive receiver).closed
  | installSink target => rfl
  | takeJournal => rfl
  | setGauge gauge => rfl

/-- The sources of a run are those that its starts opened. -/
theorem Orderly.opened_run (h : Orderly e) (events : List Event) :
    (e.run events).opened = e.opened + e.openings events := by
  induction events generalizing e with
  | nil => rfl
  | cons event events ih =>
    have hrest : (e.run (event :: events)).opened
        = (e.step event).opened + (e.step event).openings events := ih (h.step event)
    rw [hrest, h.opened_step, openings, Nat.add_assoc]

/-- While a session is active its source is open, and no other one is. -/
theorem Orderly.openSources_eq (h : Orderly e) :
    e.openSources = if e.session.isSome then 1 else 0 := by
  obtain ⟨earlier, hsources⟩ := h.sources
  have hcount : e.openSources = (e.sources.map Ring.closed).countP fun closed => !closed := by
    rw [List.countP_map]
    rfl
  rw [hcount, hsources, List.countP_append]
  have hreleased : (List.replicate earlier true).countP (fun closed => !closed) = 0 := by
    rw [List.countP_replicate]
    rfl
  rw [hreleased]
  cases e.session.isSome <;> rfl

/-- Apart from the source of an active session, which is the latest one, all are released. -/
theorem Orderly.released_of_mem_drop (h : Orderly e) :
    ∀ ring ∈ e.sources.drop (if e.session.isSome then 1 else 0), ring.closed = true := by
  obtain ⟨earlier, hsources⟩ := h.sources
  intro ring hring
  have hmem : ring.closed ∈
      (e.sources.map Ring.closed).drop (if e.session.isSome then 1 else 0) := by
    rw [← List.map_drop]
    exact List.mem_map_of_mem hring
  rw [hsources] at hmem
  cases hsome : e.session.isSome with
  | true =>
    rw [hsome] at hmem
    exact List.eq_of_mem_replicate hmem
  | false =>
    rw [hsome] at hmem
    exact List.eq_of_mem_replicate hmem

/-- Without a session everything is released. -/
theorem Orderly.released_of_none (h : Orderly e) (hnone : e.session = none) :
    ∀ ring ∈ e.sources, ring.closed = true := by
  have hall := h.released_of_mem_drop
  rwa [hnone] at hall

/-- An earlier source is released, with a session or without. -/
theorem Orderly.released_of_mem_tail (h : Orderly e) :
    ∀ ring ∈ e.sources.tail, ring.closed = true := by
  intro ring hring
  refine h.released_of_mem_drop ring ?_
  split
  · rwa [List.drop_one]
  · exact List.mem_of_mem_tail hring

/-- **The life of sessions.** After any run of a new engine, on any hosts and with any failures: the
engine is running exactly if it stores a session and idle otherwise; it tells an interface exactly
while it is running; the sources opened so far are all the ones that starts acquired, and of these
the latest one is open while the engine is running and none is while it is idle. A stop of a running
engine succeeds and leaves it idle with no source open, whatever became of its receive loop, and the
end of the engine releases every source. -/
theorem sessions_orderly (events : List Event) :
    let e := run {} events
    (e.phase = .running ∨ e.phase = .idle)
      ∧ (e.phase = .running ↔ e.session.isSome = true)
      ∧ (e.interface?.isSome = true ↔ e.phase = .running)
      ∧ e.openSources = (if e.phase = .running then 1 else 0)
      ∧ (∀ ring ∈ e.sources.tail, ring.closed = true)
      ∧ e.opened = openings {} events
      ∧ (e.phase = .running → ∃ e' discarded, e.stop = (e', .ok discarded)
          ∧ e'.phase = .idle ∧ e'.session = none ∧ e'.openSources = 0)
      ∧ e.shutDown.opened = e.opened ∧ ∀ ring ∈ e.shutDown.sources, ring.closed = true := by
  intro e
  have h : Orderly e := Orderly.new.run events
  have hphase : e.phase = .running ∨ e.phase = .idle := by
    cases hsession : e.session with
    | none => exact .inr (h.idle_iff.mpr hsession)
    | some s => exact .inl (h.running_iff.mpr (by rw [hsession]; rfl))
  have hopened : e.opened = openings {} events := by
    have hrun := Orderly.new.opened_run events
    rwa [show ({} : Engine).opened = 0 from rfl, Nat.zero_add] at hrun
  have hopen : e.openSources = if e.phase = .running then 1 else 0 := by
    rw [h.openSources_eq]
    simp only [h.running_iff]
  have hend : e.shutDown.session = none ∧ e.shutDown.opened = e.opened := by
    unfold shutDown
    rcases e.stop_cases with ⟨hnone, hstop⟩ | ⟨-, hstop⟩
    · rw [hstop]
      exact ⟨hnone, rfl⟩
    · rw [hstop]
      exact ⟨rfl, e.opened_closeSource⟩
  refine ⟨hphase, h.running_iff, ?_, hopen, h.released_of_mem_tail, hopened, fun hrun => ?_, hend.2,
    h.stop.released_of_none hend.1⟩
  · rw [h.running_iff, interface?, Option.isSome_map]
  · rcases e.stop_cases with ⟨hnone, -⟩ | ⟨-, hstop⟩
    · rw [h.running_iff, hnone] at hrun
      cases hrun
    · have hstopped := h.stop.openSources_eq
      rw [hstop] at hstopped
      exact ⟨_, _, hstop, rfl, rfl, hstopped⟩

end Engine

end LinkTap
