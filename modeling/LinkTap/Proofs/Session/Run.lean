/-
Runs of the capture engine.

A run is a list of events: calls of the engine's owner, writes of the kernel into ring memory,
rounds of the receive loop with every outcome of their wait, attempts to receive from any receiver
that was ever taken, and changes of the metrics sinks. The outside world has its say in the events,
so a property of all runs is a property under every platform and in every order.

The second half opens the operations once. Starting and stopping are told by their cases, each with
the whole engine that it leaves. Draining the ring is a fold: the ring alone decides at which of its
states the loop looks, and every look hands its records to the engine one after the other.
-/
import LinkTap.Proofs.Ring.Process
import LinkTap.Session.Monitor

set_option autoImplicit false

namespace LinkTap

/-! ## Looks of a round -/

namespace Ring

/-- Whether a look found a malformed block. -/
def Step.isMalformed (s : Step) : Bool :=
  match s.result with
  | .error (.ringRecord _) => true
  | _ => false

/-- Whether a round goes on after a look: a block was consumed, in good order or not. -/
def Step.goesOn (s : Step) : Bool :=
  match s.result with
  | .ok (some _) => true
  | _ => s.isMalformed

/-- The states of the ring at which a round looks, at most `limit` of them. -/
def looks : Nat → Ring → List Ring
  | 0, _ => []
  | limit + 1, r => r :: if r.process.goesOn then looks limit r.process.ring else []

end Ring

namespace Engine

/-! ## Events -/

/-- What can happen to an engine. -/
inductive Event where
  | start (platform : Platform) (now : Timestamp) (target : String) (settings : SessionSettings)
      (thread : Except Error Unit)
  | stop
  /-- A round of the receive loop. -/
  | round (now : Timestamp) (wait : Wait)
  /-- The kernel writes into the ring. -/
  | write (offset : Nat) (data : Bytes)
  /-- A holder of a receiver makes one attempt. -/
  | receive (receiver : Receiver)
  | installSink (target : Option Metrics.Target)
  | takeJournal
  /-- The gauge is switched, cleared or given a process reading. -/
  | setGauge (gauge : Metrics.Gauge)

/-- The engine after one event. -/
def step (e : Engine) : Event → Engine
  | .start platform now target settings thread => (e.start platform now target settings thread).1
  | .stop => e.stop.1
  | .round now wait => e.round now wait
  | .write offset data => (e.writeMemory offset data).getD e
  | .receive receiver => (e.receive receiver).1
  | .installSink target => e.installSink target
  | .takeJournal => e.takeJournal.1
  | .setGauge gauge => { e with sinks := { e.sinks with gauge } }

/-- The engine after a list of events. -/
def run (e : Engine) (events : List Event) : Engine := events.foldl step e

/-! ## Starting and stopping -/

/-- What was acquired is a source, opened with settings that are in order, on the interface that the
text denotes. -/
theorem acquire_eq_ok {platform : Platform} {target : String} {settings : SessionSettings}
    {interface : Interface} {ring : Ring}
    (h : acquire platform target settings = .ok (interface, ring)) :
    settings.validate = .ok () ∧ platform.resolve target = .ok interface
      ∧ platform.openRing interface settings = .ok ring := by
  unfold acquire at h
  cases hvalid : settings.validate with
  | error err =>
    rw [hvalid] at h
    cases h
  | ok u =>
    cases hresolve : platform.resolve target with
    | error err =>
      rw [hvalid, hresolve] at h
      cases h
    | ok found =>
      rw [hvalid, hresolve] at h
      change (do
        let opened ← platform.openRing found settings
        return (found, opened)) = Except.ok (interface, ring) at h
      cases hopen : platform.openRing found settings with
      | error err =>
        rw [hopen] at h
        cases h
      | ok opened =>
        rw [hopen] at h
        cases h
        exact ⟨rfl, rfl, hopen⟩

/-- The queue of a session that begins now. -/
def freshQueue (e : Engine) (capacity : Nat) : Queue := ⟨e.queue.generation + 1, capacity, []⟩

/-- A start is refused while a session is active, fails before anything was opened, fails at the
launch of the receive loop, or succeeds. -/
theorem start_cases (e : Engine) (platform : Platform) (now : Timestamp) (target : String)
    (settings : SessionSettings) (thread : Except Error Unit) :
    (e.session.isSome ∧ e.start platform now target settings thread = (e, .error .engineRunning))
    ∨ (e.session = none ∧ ∃ err, acquire platform target settings = .error err
        ∧ e.start platform now target settings thread = ({ e with phase := .idle }, .error err))
    ∨ (e.session = none ∧ ∃ interface ring,
        acquire platform target settings = .ok (interface, ring)
        ∧ ((∃ err, thread = .error err ∧ e.start platform now target settings thread =
            ({ e with
                phase := .idle
                counters := {}
                queue := e.freshQueue settings.queueCapacity
                retired := e.queue :: e.retired
                sources := ring.close :: e.sources }, .error err))
          ∨ (thread = .ok () ∧ e.start platform now target settings thread =
            ({ e with
                phase := .running
                counters := {}
                queue := e.freshQueue settings.queueCapacity
                retired := e.queue :: e.retired
                sources := ring :: e.sources
                session := some ⟨interface, e.queue.generation + 1, now, true⟩ }, .ok ())))) := by
  cases hs : e.session with
  | some s => exact .inl ⟨rfl, by rw [start, if_pos (by rw [hs]; rfl)]⟩
  | none =>
    refine .inr ?_
    have hfree : ¬ e.session.isSome = true := by
      rw [hs]
      exact Bool.false_ne_true
    unfold start
    rw [if_neg hfree]
    cases hacquire : acquire platform target settings with
    | error err =>
      refine .inl ⟨rfl, err, rfl, ?_⟩
      rw [hs]
    | ok acquired =>
      obtain ⟨interface, ring⟩ := acquired
      refine .inr ⟨rfl, interface, ring, rfl, ?_⟩
      cases thread with
      | error err =>
        refine .inl ⟨err, rfl, ?_⟩
        rw [← hs]
        rfl
      | ok u => exact .inr ⟨rfl, rfl⟩

/-- A stop fails while no session is active; otherwise it releases the source, discards what is
queued and puts a fresh queue in place. -/
theorem stop_cases (e : Engine) :
    (e.session = none ∧ e.stop = (e, .error .engineNotStarted))
    ∨ (e.session.isSome ∧ e.stop =
        ({ e with
            phase := .idle
            queue := e.freshQueue e.queue.capacity
            retired := { e.queue with packets := [] } :: e.retired
            sources := e.closeSource.sources
            session := none }, .ok e.queue.packets.length)) := by
  cases hs : e.session with
  | none => exact .inl ⟨rfl, by rw [stop, hs]⟩
  | some s =>
    refine .inr ⟨rfl, ?_⟩
    rw [stop, hs]
    obtain ⟨phase, counters, queue, retired, sources, session, sinks⟩ := e
    -- The source to release is the latest one, if there ever was one.
    cases sources <;> rfl

/-- The source opened last is the first one of the list. -/
theorem source?_of_sources {e : Engine} {ring : Ring} {earlier : List Ring}
    (h : e.sources = ring :: earlier) : e.source? = some ring := by
  rw [source?, h]
  rfl

/-- A write of the kernel reaches the memory of the latest source and nothing else, or nothing at
all. -/
theorem write_cases (e : Engine) (offset : Nat) (data : Bytes) :
    (e.writeMemory offset data).getD e = e
      ∨ ∃ ring region, e.source? = some ring ∧ ring.region.write offset data = some region
          ∧ (e.writeMemory offset data).getD e = e.setSource { ring with region } := by
  unfold writeMemory
  cases hring : e.source? with
  | none => exact .inl rfl
  | some ring =>
    cases hregion : ring.region.write offset data with
    | none => exact .inl (by simp [hregion])
    | some region => exact .inr ⟨ring, region, rfl, hregion, by simp [hregion]⟩

/-! ## Receiving -/

/-- An attempt on the current queue takes its oldest packet or finds it empty. Any other attempt
takes what is left in a replaced queue or learns that nothing will come. -/
theorem receive_cases (e : Engine) (r : Receiver) :
    (r = e.receiver ∧ ((∃ p rest, e.queue.packets = p :: rest
          ∧ e.receive r = ({ e with queue := { e.queue with packets := rest } }, .packet p))
        ∨ (e.queue.packets = [] ∧ e.receive r = (e, .empty))))
    ∨ (r ≠ e.receiver ∧ ((∃ p retired, takeRetired r.generation e.retired = some (p, retired)
          ∧ e.receive r = ({ e with retired }, .packet p))
        ∨ (takeRetired r.generation e.retired = none ∧ e.receive r = (e, .disconnected)))) := by
  unfold receive
  by_cases hr : r.generation = e.queue.generation
  · refine .inl ⟨?_, ?_⟩
    · rw [receiver, ← hr]
    · rw [if_pos hr]
      unfold Queue.pop?
      cases hpackets : e.queue.packets with
      | nil => exact .inr ⟨rfl, rfl⟩
      | cons p rest => exact .inl ⟨p, rest, rfl, rfl⟩
  · refine .inr ⟨?_, ?_⟩
    · intro h
      rw [h] at hr
      exact hr rfl
    · rw [if_neg hr]
      cases htaken : takeRetired r.generation e.retired with
      | none => exact .inr ⟨rfl, rfl⟩
      | some taken => exact .inl ⟨taken.1, taken.2, rfl, rfl⟩

/-! ## Handing records on -/

/-- A record for which the queue has room is appended, counted and reported. -/
theorem deliver_of_room (s : Session) (now : Timestamp) (utilization : Float) {e : Engine}
    {record : Ring.Record} (hpayload : 0 < record.payload.length)
    (hgeneration : s.generation = e.queue.generation)
    (hroom : e.queue.packets.length < e.queue.capacity) :
    deliver s now utilization e record =
      { e with
        queue := { e.queue with
          packets := e.queue.packets ++ [⟨record.time, s.interface.index, record.payload⟩] }
        counters := e.counters.countPacket record.payload.length record.time
        sinks := e.sinks.send now
          ⟨Statistics.ofCounters (e.counters.countPacket record.payload.length record.time)
            utilization, s.startedAt⟩ } := by
  have hempty : ¬ record.payload.isEmpty = true := by
    rw [List.isEmpty_iff_length_eq_zero]
    omega
  have henqueue : ∀ packet, e.enqueue? s packet =
      some { e.queue with packets := e.queue.packets ++ [packet] } := by
    intro packet
    unfold enqueue?
    rw [if_pos hgeneration]
    unfold Queue.push?
    rw [if_pos hroom]
  rw [deliver, if_neg hempty]
  dsimp only
  rw [henqueue]

/-- A record that finds the queue full is counted as dropped, and nothing else happens. -/
theorem deliver_of_full (s : Session) (now : Timestamp) (utilization : Float) {e : Engine}
    {record : Ring.Record} (hpayload : 0 < record.payload.length)
    (hgeneration : s.generation = e.queue.generation)
    (hfull : e.queue.capacity ≤ e.queue.packets.length) :
    deliver s now utilization e record = { e with counters := e.counters.countDrop } := by
  have hempty : ¬ record.payload.isEmpty = true := by
    rw [List.isEmpty_iff_length_eq_zero]
    omega
  have henqueue : ∀ packet, e.enqueue? s packet = none := by
    intro packet
    unfold enqueue?
    rw [if_pos hgeneration]
    unfold Queue.push?
    rw [if_neg (Nat.not_lt.mpr hfull)]
  rw [deliver, if_neg hempty]
  dsimp only
  rw [henqueue]

/-- Handing a record on touches neither the sources nor the session. -/
theorem deliver_frame (s : Session) (now : Timestamp) (utilization : Float) (e : Engine)
    (record : Ring.Record) :
    (deliver s now utilization e record).sources = e.sources
      ∧ (deliver s now utilization e record).session = e.session := by
  unfold deliver
  split
  · exact ⟨rfl, rfl⟩
  · dsimp only
    split <;> exact ⟨rfl, rfl⟩

theorem deliver_foldl_frame (s : Session) (now : Timestamp) (utilization : Float)
    (records : List Ring.Record) (e : Engine) :
    (records.foldl (deliver s now utilization) e).sources = e.sources
      ∧ (records.foldl (deliver s now utilization) e).session = e.session := by
  induction records generalizing e with
  | nil => exact ⟨rfl, rfl⟩
  | cons record records ih =>
    obtain ⟨hsources, hsession⟩ := ih (deliver s now utilization e record)
    obtain ⟨hsources', hsession'⟩ := deliver_frame s now utilization e record
    exact ⟨hsources.trans hsources', hsession.trans hsession'⟩

/-! ## Draining -/

/-- What one look at the ring does to the engine. -/
def handle (s : Session) (now : Timestamp) (e : Engine) (ring : Ring) : Engine :=
  let delivered :=
    ring.process.records.foldl (deliver s now ring.utilization) (e.setSource ring.process.ring)
  if ring.process.isMalformed then delivered.countError else delivered

/-- A look leaves the ring in the state that `process` says, and the session alone. -/
theorem handle_frame (s : Session) (now : Timestamp) (e : Engine) (ring : Ring) :
    (handle s now e ring).sources = ring.process.ring :: e.sources.tail
      ∧ (handle s now e ring).session = e.session := by
  obtain ⟨hsources, hsession⟩ := deliver_foldl_frame s now ring.utilization ring.process.records
    (e.setSource ring.process.ring)
  unfold handle
  dsimp only
  split
  · exact ⟨hsources, hsession⟩
  · exact ⟨hsources, hsession⟩

/-- Draining is a fold over the looks of a round. -/
theorem drain_eq_foldl (s : Session) (now : Timestamp) {limit : Nat} {e : Engine} {ring : Ring}
    (hring : e.source? = some ring) :
    drain s now limit e = (ring.looks limit).foldl (handle s now) e := by
  induction limit generalizing e ring with
  | zero => rfl
  | succ limit ih =>
    have hnext : (handle s now e ring).source? = some ring.process.ring := by
      rw [source?, (handle_frame s now e ring).1]
      rfl
    rw [drain, hring, Ring.looks, List.foldl_cons]
    dsimp only
    -- A round stops early at a block of the producer and at a released ring, and nowhere else.
    rcases ring.process_result_cases with h | ⟨count, h⟩ | h | ⟨fault, h⟩
    · simp [h, handle, Ring.Step.isMalformed, Ring.Step.goesOn]
    · rw [h]
      dsimp only
      have hgoes : ring.process.goesOn = true := by simp [Ring.Step.goesOn, h]
      rw [if_pos hgoes, ← ih hnext]
      simp [handle, Ring.Step.isMalformed, h]
    · simp [h, handle, Ring.Step.isMalformed, Ring.Step.goesOn]
    · rw [h]
      have hgoes : ring.process.goesOn = true := by
        simp [Ring.Step.goesOn, Ring.Step.isMalformed, h, Ring.malformed]
      rw [if_pos hgoes, ← ih hnext]
      simp [handle, Ring.Step.isMalformed, h, Ring.malformed]

end Engine

/-! ## Starting a capture run -/

/-- What a capture run starts with: the target that was validated, a session over a source of its
own on what the name of the target denotes, an empty queue that the consumer has the receiver of,
and nothing counted. -/
theorem Monitor.start_eq_ok {platform : Platform} {now : Timestamp} {config : Config}
    {limit : Option Nat} {m : Monitor} (h : Monitor.start platform now config limit = .ok m) :
    platform.target config = .ok m.target
      ∧ ∃ interface ring, Engine.acquire platform m.target.name config.session
          = .ok (interface, ring)
        ∧ m = { target := m.target
                engine :=
                  { phase := .running
                    queue := ⟨1, config.session.queueCapacity, []⟩
                    retired := [⟨0, 1000, []⟩]
                    sources := [ring]
                    session := some ⟨interface, 1, now, true⟩
                    sinks := { installed := some .gauge } }
                receiver := ⟨1⟩
                consumer := { snapLength := config.snapLength, limit } } := by
  unfold Monitor.start at h
  cases htarget : platform.target config with
  | error err =>
    rw [htarget] at h
    cases h
  | ok target =>
    rw [htarget] at h
    dsimp only [bind, Except.bind] at h
    rcases (({} : Engine).installSink (some .gauge)).start_cases platform now target.name
        config.session (.ok ()) with
      ⟨hsome, -⟩ | ⟨-, err, -, hstart⟩
      | ⟨-, interface, ring, hacquire, ⟨err, herror, -⟩ | ⟨-, hstart⟩⟩
    · cases hsome
    · rw [hstart] at h
      cases h
    · cases herror
    · rw [hstart] at h
      cases h
      exact ⟨rfl, interface, ring, hacquire, rfl⟩

end LinkTap
