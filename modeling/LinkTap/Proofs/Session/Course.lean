/-
The course of a capture run, act by act.

A run is a list of events, and some of its events are long: a round hands on many records, an
attempt of the consumer looks for the word to stop and then waits for a packet, and an end goes from
the engine's session to its receive loop, its source, its queue and at last to the consumer.
Meanwhile the other parties do not stand still. Here every event is taken apart into acts, and a
course is any list of acts: the consumer may take a packet between two records of one round, a
record may be handed on when the end has already begun, and an attempt that began before the end may
find its outcome after it. The end empties the queue one packet at a time, and the consumer may
receive between two of them.

What the receive loop reads off the ring is left open. A course may hand on any records and leave
the ring in any state, so that what holds of all courses does not hang on the ring.

Two lists are kept beside a course: the packets that the queue of the session accepted and the
packets that the end discarded, both in order. Each event of a run is a course of acts, which is
shown last.
-/
import LinkTap.Proofs.Session.Accounting
import LinkTap.Proofs.Session.Lifecycle
import LinkTap.Session.Monitor

set_option autoImplicit false

namespace LinkTap

namespace Monitor

/-! ## Acts -/

/-- How far the end of a run has come. -/
inductive Stage where
  | capturing
  /-- The session is taken from the engine, and its receive loop is told to stop. -/
  | stopping
  /-- The receive loop has ended. -/
  | joined
  /-- The source is released. Now the queue is emptied, one packet at a time. -/
  | released
  /-- The queue is replaced, and the engine is idle. -/
  | emptied
  /-- The consumer is told to stop. -/
  | told
  deriving DecidableEq, Repr

namespace Stage

/-- Whether the source is released. -/
def isReleased : Stage → Bool
  | .released | .emptied | .told => true
  | _ => false

/-- Whether the queue of the session is gone. -/
def isEmptied : Stage → Bool
  | .emptied | .told => true
  | _ => false

end Stage

/-- A capture run in the middle of its events. -/
structure Course where
  monitor : Monitor
  stage : Stage := .capturing
  /-- The session that the receive loop works for, while it runs. -/
  loop : Option Session
  /-- Whether the consumer has looked for the word to stop, found none, and waits for a packet. -/
  waiting : Bool := false
  /-- The packets that the queue of the session accepted. -/
  accepted : List Packet := []
  /-- The packets that the end discarded. -/
  discarded : List Packet := []

/-- What one party does without another one in between. -/
inductive Act where
  /-- The receive loop hands a record on. -/
  | handOn (now : Timestamp) (utilization : Float) (record : Ring.Record)
  /-- The receive loop leaves the ring in another state. -/
  | moveOn (ring : Ring)
  /-- The receive loop counts an error. -/
  | countError
  /-- The receive loop comes to a sudden end. -/
  | crash
  /-- The kernel writes into the ring. -/
  | write (offset : Nat) (data : Bytes)
  /-- The consumer looks for the word to stop. -/
  | look
  /-- The wait of the consumer ends: with a packet, without one, or with the news that none will
  come. -/
  | attempt
  /-- The supervisor reports. -/
  | report (now : Timestamp) (usage : Option (Float × Nat))
  /-- The supervisor notices that the consumer has finished, and begins the end. -/
  | conclude
  /-- The run is interrupted from outside, and the supervisor begins the end. -/
  | interrupt
  /-- The supervisor goes on with the end: it discards a packet, or comes to the next stage. -/
  | proceed

namespace Course

/-- A run that was just started. -/
def begin (m : Monitor) : Course := { monitor := m, loop := m.engine.session }

def setEngine (w : Course) (e : Engine) : Course :=
  { w with monitor := { w.monitor with engine := e } }

/-- The receive loop, while it runs, offers a record to the queue of its session. -/
def handOn (w : Course) (now : Timestamp) (utilization : Float) (record : Ring.Record) : Course :=
  match w.loop with
  | none => w
  | some s =>
    let offer : Engine.Offer := ⟨s, now, utilization, w.monitor.engine, record⟩
    { w.setEngine offer.outcome with
      accepted := if offer.dropped then w.accepted else w.accepted ++ [offer.packet] }

/-- Something else that the receive loop does to the engine. -/
def receiving (w : Course) (f : Engine → Engine) : Course :=
  if w.loop.isSome then w.setEngine (f w.monitor.engine) else w

/-- A receive loop that comes to a sudden end leaves its session behind. -/
def crash (w : Course) : Course :=
  match w.loop with
  | none => w
  | some _ =>
    let e := w.monitor.engine
    { w.setEngine { e with session := e.session.map fun s => { s with receiving := false } } with
      loop := none }

/-- A consumer that is neither at its end nor in a wait
looks for the word to stop, and waits if there is none. -/
def look (w : Course) : Course :=
  if w.waiting then w
  else
    let consumer := w.monitor.consumer.observe w.monitor.shutdown
    { w with waiting := !consumer.finished, monitor := { w.monitor with consumer } }

/-- The wait of the consumer comes to an outcome, which may be that there was no packet. -/
def attempt (w : Course) : Course :=
  if w.waiting then
    let (engine, reception) := w.monitor.engine.receive w.monitor.receiver
    { w with
      waiting := false
      monitor := { w.monitor with engine, consumer := w.monitor.consumer.handle reception } }
  else w

/-- Begin the end: from now on the engine has no session, and the receive loop is told to stop. -/
def halt (w : Course) : Course :=
  match w.stage with
  | .capturing =>
    { w.setEngine { w.monitor.engine with session := none, phase := .stopping } with
      stage := .stopping }
  | _ => w

/-- The receive loop has come to its end. -/
def join (w : Course) : Course := { w with stage := .joined, loop := none }

/-- Release the source. -/
def release (w : Course) : Course :=
  { w.setEngine w.monitor.engine.closeSource with stage := .released }

/-- Discard the oldest packet that is queued. Once there is
none, put a fresh queue in place and leave the engine idle. -/
def empty (w : Course) : Course :=
  let e := w.monitor.engine
  match e.queue.pop? with
  | some (p, queue) => { w.setEngine { e with queue } with discarded := w.discarded ++ [p] }
  | none =>
    { w with
      stage := .emptied
      monitor :=
        { w.monitor with
          engine := { e.replaceQueue e.queue.capacity with phase := .idle }
          discarded := some w.discarded.length } }

/-- Tell the consumer to stop. -/
def tell (w : Course) : Course :=
  { w with stage := .told, monitor := { w.monitor with shutdown := true } }

/-- Go on with an end that has begun. -/
def proceed (w : Course) : Course :=
  match w.stage with
  | .capturing => w
  | .stopping => w.join
  | .joined => w.release
  | .released => w.empty
  | .emptied => w.tell
  | .told => w

/-- The course after one act. -/
def act (w : Course) : Act → Course
  | .handOn now utilization record => w.handOn now utilization record
  | .moveOn ring => w.receiving fun e => e.setSource ring
  | .countError => w.receiving Engine.countError
  | .crash => w.crash
  | .write offset data =>
    w.setEngine ((w.monitor.engine.writeMemory offset data).getD w.monitor.engine)
  | .look => w.look
  | .attempt => w.attempt
  | .report now usage => { w with monitor := w.monitor.report now usage }
  | .conclude => if w.monitor.consumer.finished then w.halt else w
  | .interrupt => w.halt
  | .proceed => w.proceed

/-- The course after a list of acts. -/
def run (w : Course) (acts : List Act) : Course := acts.foldl act w

variable {w : Course}

theorem run_cons (w : Course) (a : Act) (acts : List Act) :
    w.run (a :: acts) = (w.act a).run acts := rfl

theorem run_append (w : Course) (acts more : List Act) :
    w.run (acts ++ more) = (w.run acts).run more :=
  List.foldl_append

theorem receiving_of_loop {s : Session} (hloop : w.loop = some s) (f : Engine → Engine) :
    w.receiving f = w.setEngine (f w.monitor.engine) := by
  rw [receiving, hloop]
  rfl

/-- The end takes a packet off the queue, or finds it empty and replaces it. -/
theorem empty_cases (w : Course) :
    (∃ p rest, w.monitor.engine.queue.packets = p :: rest
        ∧ w.empty =
            { w.setEngine
                { w.monitor.engine with
                  queue := { w.monitor.engine.queue with packets := rest } } with
              discarded := w.discarded ++ [p] })
      ∨ (w.monitor.engine.queue.packets = []
        ∧ w.empty =
            { w with
              stage := .emptied
              monitor :=
                { w.monitor with
                  engine := { w.monitor.engine.replaceQueue w.monitor.engine.queue.capacity with
                    phase := .idle }
                  discarded := some w.discarded.length } }) := by
  cases hpackets : w.monitor.engine.queue.packets with
  | nil =>
    have hpop : w.monitor.engine.queue.pop? = none := by rw [Queue.pop?, hpackets]
    refine .inr ⟨rfl, ?_⟩
    rw [empty, hpop]
  | cons p rest =>
    have hpop : w.monitor.engine.queue.pop?
        = some (p, { w.monitor.engine.queue with packets := rest }) := by
      rw [Queue.pop?, hpackets]
    refine .inl ⟨p, rest, rfl, ?_⟩
    rw [empty, hpop]

/-! ## What holds between acts -/

/-- Stage, receive loop, engine and consumer agree. -/
structure Coherent (w : Course) : Prop where
  /-- The session stays with the engine, and its receive loop with the session, until the end
  begins. -/
  capturing : w.stage = .capturing → ∃ s, w.monitor.engine.session = some s
    ∧ w.loop = if s.receiving then some s else none
  ended : w.stage ≠ .capturing → w.monitor.engine.session = none
  /-- A receive loop fills the queue of its session, and does not outlive the first stage of the
  end. -/
  loop : ∀ s, w.loop = some s → (w.stage = .capturing ∨ w.stage = .stopping)
    ∧ s.generation = w.monitor.engine.queue.generation
  receiver : w.monitor.receiver = w.monitor.engine.receiver ↔ w.stage.isEmptied = false
  retired : ∀ queue ∈ w.monitor.engine.retired, queue.packets = []
  /-- There is one source, and it is released in time. -/
  source : ∃ ring, w.monitor.engine.sources = [ring]
    ∧ (w.stage.isReleased = true → ring.closed = true)
  idle : w.stage.isEmptied = true →
    w.monitor.engine.phase = .idle ∧ w.monitor.engine.queue.packets = []
  shutdown : w.monitor.shutdown = decide (w.stage = .told)
  noted : w.stage.isEmptied = true → w.monitor.discarded = some w.discarded.length

/-- From `w` to `w'` nothing began or ended. -/
structure Undisturbed (w w' : Course) : Prop where
  stage : w'.stage = w.stage
  loop : w'.loop = w.loop
  discarded : w'.discarded = w.discarded
  receiver : w'.monitor.receiver = w.monitor.receiver
  shutdown : w'.monitor.shutdown = w.monitor.shutdown
  noted : w'.monitor.discarded = w.monitor.discarded
  phase : w'.monitor.engine.phase = w.monitor.engine.phase
  session : w'.monitor.engine.session = w.monitor.engine.session
  generation : w'.monitor.engine.queue.generation = w.monitor.engine.queue.generation
  retired : w'.monitor.engine.retired = w.monitor.engine.retired
  source : ∃ ring, w'.monitor.engine.sources = [ring]
    ∧ (w.stage.isReleased = true → ring.closed = true)
  queue : w.stage.isEmptied = true → w'.monitor.engine.queue.packets = []

namespace Coherent

variable {w' : Course}

/-- What begins or ends nothing keeps all parts in agreement. -/
theorem of_undisturbed (h : Coherent w) (hsame : Undisturbed w w') : Coherent w' := by
  have hreceiver : w'.monitor.engine.receiver = w.monitor.engine.receiver := by
    rw [Engine.receiver, Engine.receiver, hsame.generation]
  refine ⟨?_, ?_, ?_, ?_, ?_, ?_, ?_, ?_, ?_⟩
  · rw [hsame.stage, hsame.session, hsame.loop]
    exact h.capturing
  · rw [hsame.stage, hsame.session]
    exact h.ended
  · rw [hsame.loop, hsame.stage, hsame.generation]
    exact h.loop
  · rw [hsame.receiver, hreceiver, hsame.stage]
    exact h.receiver
  · rw [hsame.retired]
    exact h.retired
  · rw [hsame.stage]
    exact hsame.source
  · rw [hsame.stage, hsame.phase]
    exact fun hemptied => ⟨(h.idle hemptied).1, hsame.queue hemptied⟩
  · rw [hsame.shutdown, hsame.stage]
    exact h.shutdown
  · rw [hsame.stage, hsame.noted, hsame.discarded]
    exact h.noted

/-- The queue of the session is there as long as its receive loop runs. -/
theorem not_emptied_of_loop (h : Coherent w) {s : Session} (hloop : w.loop = some s) :
    w.stage.isReleased = false ∧ w.stage.isEmptied = false := by
  rcases (h.loop s hloop).1 with hstage | hstage
  · rw [hstage]
    exact ⟨rfl, rfl⟩
  · rw [hstage]
    exact ⟨rfl, rfl⟩

/-- Changes of the engine that leave its session, its sources and its queue alone. -/
theorem undisturbed_setEngine (h : Coherent w) {e : Engine}
    (hphase : e.phase = w.monitor.engine.phase)
    (hsession : e.session = w.monitor.engine.session) (hqueue : e.queue = w.monitor.engine.queue)
    (hretired : e.retired = w.monitor.engine.retired)
    (hsources : e.sources = w.monitor.engine.sources) :
    Undisturbed w (w.setEngine e) := by
  refine ⟨rfl, rfl, rfl, rfl, rfl, rfl, hphase, hsession, congrArg Queue.generation hqueue,
    hretired, ?_, ?_⟩
  · show ∃ ring, e.sources = [ring] ∧ _
    rw [hsources]
    exact h.source
  · intro hemptied
    show e.queue.packets = []
    rw [hqueue]
    exact (h.idle hemptied).2

end Coherent

/-! ### The receive loop -/

/-- A record that is handed on changes a counter of the engine at most, or is accepted: it goes to
the end of the queue and counts as received. -/
theorem Coherent.handOn_cases (h : Coherent w) (now : Timestamp) (utilization : Float)
    (record : Ring.Record) :
    (∃ counters, w.handOn now utilization record = w.setEngine { w.monitor.engine with counters }
        ∧ counters.received = w.monitor.engine.counters.received)
      ∨ (w.stage.isEmptied = false ∧ ∃ p counters sinks,
          w.handOn now utilization record
            = { w.setEngine
                  { w.monitor.engine with
                    queue := { w.monitor.engine.queue with
                      packets := w.monitor.engine.queue.packets ++ [p] }
                    counters
                    sinks } with
                accepted := w.accepted ++ [p] }
          ∧ counters.received = w.monitor.engine.counters.received + 1) := by
  unfold Course.handOn
  cases hloop : w.loop with
  | none => exact .inl ⟨_, rfl, rfl⟩
  | some s =>
    have hgeneration := (h.loop s hloop).2
    let offer : Engine.Offer := ⟨s, now, utilization, w.monitor.engine, record⟩
    dsimp only
    by_cases hpayload : 0 < record.payload.length
    · rcases Engine.Offer.outcome_cases (o := offer) hpayload hgeneration with
        ⟨hdropped, -, houtcome⟩ | ⟨hdropped, -, houtcome⟩
      · rw [show Engine.Offer.dropped _ = false from hdropped,
          show Engine.Offer.outcome _ = _ from houtcome]
        exact .inr ⟨(h.not_emptied_of_loop hloop).2, offer.packet, _, _, rfl, rfl⟩
      · rw [show Engine.Offer.dropped _ = true from hdropped,
          show Engine.Offer.outcome _ = _ from houtcome]
        exact .inl ⟨_, rfl, rfl⟩
    · -- A record without octets is passed over.
      have hempty : record.payload.isEmpty = true := by
        rw [List.isEmpty_iff_length_eq_zero]
        omega
      have houtcome : offer.outcome = w.monitor.engine := by
        rw [Engine.Offer.outcome, Engine.deliver, if_pos hempty]
      have hdropped : offer.dropped = true := decide_eq_true (congrArg Engine.queue houtcome)
      rw [show Engine.Offer.dropped _ = true from hdropped,
        show Engine.Offer.outcome _ = _ from houtcome]
      exact .inl ⟨_, rfl, rfl⟩

/-! ### The consumer -/

/-- The wait of a consumer ends with the oldest packet of the queue, or leaves everything but the
consumer alone. -/
theorem Coherent.attempt_cases (h : Coherent w) :
    (∃ consumer waiting, w.attempt = { w with waiting, monitor := { w.monitor with consumer } }
        ∧ consumer.taken = w.monitor.consumer.taken)
      ∨ (w.stage.isEmptied = false ∧ ∃ p rest, w.monitor.engine.queue.packets = p :: rest
          ∧ w.attempt = { w with
              waiting := false
              monitor := { w.monitor with
                engine := { w.monitor.engine with
                  queue := { w.monitor.engine.queue with packets := rest } }
                consumer := w.monitor.consumer.take p } }) := by
  unfold Course.attempt
  by_cases hwaiting : w.waiting = true
  · rw [if_pos hwaiting]
    rcases w.monitor.engine.receive_cases w.monitor.receiver with
      ⟨hcurrent, ⟨p, rest, hpackets, hreceive⟩ | ⟨-, hreceive⟩⟩
      | ⟨-, ⟨p, retired, htaken, -⟩ | ⟨-, hreceive⟩⟩
    · rw [hreceive]
      exact .inr ⟨h.receiver.mp hcurrent, p, rest, hpackets, rfl⟩
    · rw [hreceive]
      exact .inl ⟨_, _, rfl, rfl⟩
    · -- Nothing is ever left in a queue that was replaced.
      rw [Engine.Orderly.takeRetired_eq_none _ h.retired] at htaken
      cases htaken
    · rw [hreceive]
      exact .inl ⟨_, _, rfl, rfl⟩
  · rw [if_neg hwaiting]
    exact .inl ⟨_, _, rfl, rfl⟩

/-! ### All acts -/

namespace Coherent

theorem handOn (h : Coherent w) (now : Timestamp) (utilization : Float) (record : Ring.Record) :
    Coherent (w.handOn now utilization record) := by
  rcases h.handOn_cases now utilization record with
    ⟨counters, hact, -⟩ | ⟨hqueue, p, counters, sinks, hact, -⟩
  · rw [hact]
    exact h.of_undisturbed (h.undisturbed_setEngine rfl rfl rfl rfl rfl)
  · rw [hact]
    apply h.of_undisturbed
    refine ⟨rfl, rfl, rfl, rfl, rfl, rfl, rfl, rfl, rfl, rfl, h.source, ?_⟩
    intro hemptied
    rw [hqueue] at hemptied
    cases hemptied

/-- Whatever the receive loop makes of the ring, its source is not released yet. -/
theorem moveOn (h : Coherent w) (ring : Ring) :
    Coherent (w.receiving fun e => e.setSource ring) := by
  cases hloop : w.loop with
  | none =>
    rw [Course.receiving, hloop]
    exact h
  | some s =>
    have hopen := (h.not_emptied_of_loop hloop).1
    rw [receiving_of_loop hloop]
    apply h.of_undisturbed
    refine ⟨rfl, rfl, rfl, rfl, rfl, rfl, rfl, rfl, rfl, rfl, ⟨ring, ?_, ?_⟩,
      fun hemptied => (h.idle hemptied).2⟩
    · obtain ⟨earlier, hsources, -⟩ := h.source
      show ring :: w.monitor.engine.sources.tail = [ring]
      rw [hsources]
      rfl
    · intro hreleased
      rw [hopen] at hreleased
      cases hreleased

theorem countError (h : Coherent w) : Coherent (w.receiving Engine.countError) := by
  unfold Course.receiving
  split
  · exact h.of_undisturbed (h.undisturbed_setEngine rfl rfl rfl rfl rfl)
  · exact h

theorem crash (h : Coherent w) : Coherent w.crash := by
  have hnone : ∀ s : Session, none = some s → (w.stage = .capturing ∨ w.stage = .stopping)
      ∧ s.generation = w.monitor.engine.queue.generation := by
    intro s hs
    cases hs
  unfold Course.crash
  split
  · exact h
  · refine ⟨?_, ?_, hnone, h.receiver, h.retired, h.source, h.idle, h.shutdown, h.noted⟩
    · intro hstage
      obtain ⟨s, hsession, -⟩ := h.capturing hstage
      refine ⟨{ s with receiving := false }, ?_, rfl⟩
      show w.monitor.engine.session.map _ = _
      rw [hsession]
      rfl
    · intro hstage
      show w.monitor.engine.session.map _ = none
      rw [h.ended hstage]
      rfl

/-- The kernel writes into the memory of the source, and the ring over it stays as it was. -/
theorem write (h : Coherent w) (offset : Nat) (data : Bytes) :
    Coherent (w.setEngine ((w.monitor.engine.writeMemory offset data).getD w.monitor.engine)) := by
  rcases w.monitor.engine.write_cases offset data with hwrite | ⟨ring, region, hring, -, hwrite⟩
  · rw [hwrite]
    exact h
  · obtain ⟨ring', hsources, hclosed⟩ := h.source
    -- The ring that is written is the only one there is.
    obtain rfl : ring' = ring :=
      Option.some.inj ((Engine.source?_of_sources hsources).symm.trans hring)
    rw [hwrite]
    apply h.of_undisturbed
    refine ⟨rfl, rfl, rfl, rfl, rfl, rfl, rfl, rfl, rfl, rfl, ⟨{ ring' with region }, ?_, hclosed⟩,
      fun hemptied => (h.idle hemptied).2⟩
    show _ :: w.monitor.engine.sources.tail = _
    rw [hsources]
    rfl

theorem look (h : Coherent w) : Coherent w.look := by
  unfold Course.look
  split
  · exact h
  · exact ⟨h.capturing, h.ended, h.loop, h.receiver, h.retired, h.source, h.idle, h.shutdown,
      h.noted⟩

theorem attempt (h : Coherent w) : Coherent w.attempt := by
  rcases h.attempt_cases with ⟨consumer, waiting, hact, -⟩ | ⟨hqueue, p, rest, hpackets, hact⟩
  · rw [hact]
    exact ⟨h.capturing, h.ended, h.loop, h.receiver, h.retired, h.source, h.idle, h.shutdown,
      h.noted⟩
  · rw [hact]
    apply h.of_undisturbed
    refine ⟨rfl, rfl, rfl, rfl, rfl, rfl, rfl, rfl, rfl, rfl, h.source, ?_⟩
    intro hemptied
    rw [hqueue] at hemptied
    cases hemptied

/-- An end begins with the session. Its receive loop may go on until it notices. -/
theorem halt (h : Coherent w) : Coherent w.halt := by
  unfold Course.halt
  split
  · rename_i hstage
    -- The receive loop is not ended yet, and goes on for the session that was taken.
    refine ⟨?_, fun _ => rfl, fun s hloop => ⟨.inr rfl, (h.loop s hloop).2⟩, ?_, h.retired, ?_,
      ?_, ?_, ?_⟩
    · intro hcapturing
      cases hcapturing
    · have hreceiver := h.receiver
      rw [hstage] at hreceiver
      exact hreceiver
    · obtain ⟨ring, hsources, -⟩ := h.source
      exact ⟨ring, hsources, fun hreleased => by cases hreleased⟩
    · intro hemptied
      cases hemptied
    · have hshutdown := h.shutdown
      rw [hstage] at hshutdown
      exact hshutdown
    · intro hemptied
      cases hemptied
  · exact h

/-- Past the first stage of the end there is no receive loop. -/
theorem loop_eq_none (h : Coherent w) (hcapturing : w.stage ≠ .capturing)
    (hstopping : w.stage ≠ .stopping) :
    w.loop = none := by
  cases hloop : w.loop with
  | none => rfl
  | some s =>
    rcases (h.loop s hloop).1 with hstage | hstage
    · exact absurd hstage hcapturing
    · exact absurd hstage hstopping

theorem join (h : Coherent w) (hstage : w.stage = .stopping) : Coherent w.join := by
  obtain ⟨hcapturing, hended, -, hreceiver, hretired, ⟨ring, hsources, -⟩, -, hshutdown, -⟩ := h
  rw [hstage] at hended hreceiver hshutdown
  refine ⟨nofun, fun _ => hended nofun, nofun, hreceiver, hretired, ⟨ring, hsources, nofun⟩, nofun,
    hshutdown, nofun⟩

/-- From now on the one source there is has been released. -/
theorem release (h : Coherent w) (hstage : w.stage = .joined) : Coherent w.release := by
  have hloop : w.loop = none := h.loop_eq_none (by rw [hstage]; nofun) (by rw [hstage]; nofun)
  obtain ⟨-, hended, -, hreceiver, hretired, ⟨ring, hsources, -⟩, -, hshutdown, -⟩ := h
  rw [hstage] at hended hreceiver hshutdown
  have hclose : w.monitor.engine.closeSource = w.monitor.engine.setSource ring.close := by
    unfold Engine.closeSource Engine.source?
    rw [hsources]
    rfl
  unfold Course.release
  rw [hclose]
  refine ⟨nofun, fun _ => hended nofun, ?_, hreceiver, hretired,
    ⟨ring.close, ?_, fun _ => rfl⟩, nofun, hshutdown, nofun⟩
  · intro s hs
    cases hloop.symm.trans hs
  · show ring.close :: w.monitor.engine.sources.tail = [ring.close]
    rw [hsources]
    rfl

/-- Discarding a packet leaves all as it was but the queue. The receiver of the consumer belongs to
the queue that is replaced at the end. -/
theorem empty (h : Coherent w) (hstage : w.stage = .released) : Coherent w.empty := by
  have hloop : w.loop = none := h.loop_eq_none (by rw [hstage]; nofun) (by rw [hstage]; nofun)
  have hnot : w.stage.isEmptied = true → False := by
    rw [hstage]
    nofun
  rcases w.empty_cases with ⟨p, rest, -, hact⟩ | ⟨hpackets, hact⟩
  · rw [hact]
    exact ⟨h.capturing, h.ended, h.loop, h.receiver, h.retired, h.source,
      fun hemptied => (hnot hemptied).elim, h.shutdown, fun hemptied => (hnot hemptied).elim⟩
  · obtain ⟨-, hended, -, hreceiver, hretired, hsource, -, hshutdown, -⟩ := h
    rw [hstage] at hended hreceiver hshutdown hsource
    have hcurrent : w.monitor.receiver = ⟨w.monitor.engine.queue.generation⟩ := hreceiver.mpr rfl
    rw [hact]
    refine ⟨nofun, fun _ => hended nofun, ?_, ?_, ?_, hsource, fun _ => ⟨rfl, rfl⟩, hshutdown,
      fun _ => rfl⟩
    · intro s hs
      cases hloop.symm.trans hs
    · refine ⟨fun hfresh => ?_, nofun⟩
      have hgeneration : w.monitor.receiver = ⟨w.monitor.engine.queue.generation + 1⟩ := hfresh
      rw [hcurrent, Receiver.mk.injEq] at hgeneration
      omega
    · intro queue hqueue
      rcases List.mem_cons.mp hqueue with rfl | hqueue
      · exact hpackets
      · exact hretired queue hqueue

theorem tell (h : Coherent w) (hstage : w.stage = .emptied) : Coherent w.tell := by
  have hloop : w.loop = none := h.loop_eq_none (by rw [hstage]; nofun) (by rw [hstage]; nofun)
  obtain ⟨-, hended, -, hreceiver, hretired, hsource, hidle, -, hnoted⟩ := h
  rw [hstage] at hended hreceiver hsource hidle hnoted
  refine ⟨nofun, fun _ => hended nofun, ?_, hreceiver, hretired, hsource, hidle, rfl, hnoted⟩
  intro s hs
  cases hloop.symm.trans hs

theorem proceed (h : Coherent w) : Coherent w.proceed := by
  unfold Course.proceed
  split
  · exact h
  · rename_i hstage
    exact h.join hstage
  · rename_i hstage
    exact h.release hstage
  · rename_i hstage
    exact h.empty hstage
  · rename_i hstage
    exact h.tell hstage
  · exact h

/-- Every act keeps all parts in agreement. -/
theorem act (h : Coherent w) (a : Act) : Coherent (w.act a) := by
  cases a with
  | handOn now utilization record => exact h.handOn now utilization record
  | moveOn ring => exact h.moveOn ring
  | countError => exact h.countError
  | crash => exact h.crash
  | write offset data => exact h.write offset data
  | look => exact h.look
  | attempt => exact h.attempt
  | report now usage =>
    exact ⟨h.capturing, h.ended, h.loop, h.receiver, h.retired, h.source, h.idle, h.shutdown,
      h.noted⟩
  | conclude =>
    rw [Course.act]
    split
    · exact h.halt
    · exact h
  | interrupt => exact h.halt
  | proceed => exact h.proceed

theorem run (h : Coherent w) (acts : List Act) : Coherent (w.run acts) := by
  induction acts generalizing w with
  | nil => exact h
  | cons a acts ih => exact ih (h.act a)

end Coherent

/-- What a start leaves is coherent. -/
theorem coherent_begin {platform : Platform} {now : Timestamp} {config : Config}
    {limit : Option Nat} {m : Monitor}
    (hstart : Monitor.start platform now config limit = .ok m) : Coherent (begin m) := by
  obtain ⟨-, interface, ring, -, hm⟩ := Monitor.start_eq_ok hstart
  rw [hm]
  refine ⟨fun _ => ⟨_, rfl, rfl⟩, fun hended => absurd rfl hended, ?_,
    ⟨fun _ => rfl, fun _ => rfl⟩, ?_, ⟨ring, rfl, nofun⟩, nofun, rfl, nofun⟩
  · intro s hloop
    rw [← Option.some.inj hloop]
    exact ⟨.inl rfl, rfl⟩
  · intro queue hqueue
    rw [List.mem_singleton.mp hqueue]

/-! ## Events as courses -/

/-- Records that are handed on one after the other. -/
theorem run_handOn {s : Session} (hloop : w.loop = some s) (now : Timestamp) (utilization : Float)
    (records : List Ring.Record) :
    ∃ accepted, w.run (records.map (.handOn now utilization))
      = { w.setEngine (records.foldl (Engine.deliver s now utilization) w.monitor.engine) with
          accepted } := by
  induction records generalizing w with
  | nil => exact ⟨w.accepted, rfl⟩
  | cons record records ih =>
    have hfirst : w.act (.handOn now utilization record) = w.handOn now utilization record := rfl
    rw [List.map_cons, run_cons, hfirst, handOn, hloop]
    dsimp only
    exact ih hloop

/-- The acts of a look at the ring. -/
def lookActs (now : Timestamp) (ring : Ring) : List Act :=
  .moveOn ring.process.ring :: ring.process.records.map (.handOn now ring.utilization)
    ++ if ring.process.isMalformed then [.countError] else []

/-- A look is one act for the ring, one for each record, and one for an error if there was one. -/
theorem run_lookActs {s : Session} (hloop : w.loop = some s) (now : Timestamp) (ring : Ring) :
    ∃ accepted, w.run (lookActs now ring)
      = { w.setEngine (Engine.handle s now w.monitor.engine ring) with accepted } := by
  have hmoved : w.act (.moveOn ring.process.ring)
      = w.setEngine (w.monitor.engine.setSource ring.process.ring) :=
    receiving_of_loop hloop fun e => e.setSource ring.process.ring
  have hcount : ∀ v : Course, v.loop = some s →
      v.run [.countError] = v.setEngine v.monitor.engine.countError :=
    fun v hv => receiving_of_loop hv Engine.countError
  have hloop' : (w.setEngine (w.monitor.engine.setSource ring.process.ring)).loop = some s := hloop
  obtain ⟨accepted, hhanded⟩ := run_handOn hloop' now ring.utilization ring.process.records
  refine ⟨accepted, ?_⟩
  rw [lookActs, List.cons_append, run_cons, run_append, hmoved, hhanded]
  unfold Engine.handle
  by_cases hmalformed : ring.process.isMalformed = true
  · rw [if_pos hmalformed, if_pos hmalformed]
    exact hcount _ hloop
  · rw [if_neg hmalformed, if_neg hmalformed]
    rfl

theorem run_looks {s : Session} (hloop : w.loop = some s) (now : Timestamp) (rings : List Ring) :
    ∃ accepted, w.run (rings.flatMap (lookActs now))
      = { w.setEngine (rings.foldl (Engine.handle s now) w.monitor.engine) with accepted } := by
  induction rings generalizing w with
  | nil => exact ⟨w.accepted, rfl⟩
  | cons ring rings ih =>
    obtain ⟨accepted, hlook⟩ := run_lookActs hloop now ring
    rw [List.flatMap_cons, run_append, hlook]
    exact ih hloop

/-- If nobody comes in between, an end that has come to the queue discards all that is there. -/
theorem run_empty (hstage : w.stage = .released) :
    w.run (List.replicate w.monitor.engine.queue.packets.length .proceed)
      = { w.setEngine
            { w.monitor.engine with queue := { w.monitor.engine.queue with packets := [] } } with
          discarded := w.discarded ++ w.monitor.engine.queue.packets } := by
  induction hpackets : w.monitor.engine.queue.packets generalizing w with
  | nil =>
    have hqueue : { w.monitor.engine.queue with packets := [] } = w.monitor.engine.queue := by
      rw [← hpackets]
    rw [hqueue, List.append_nil]
    rfl
  | cons p rest ih =>
    have hfirst : w.act .proceed = w.empty := by
      rw [act, proceed, hstage]
    rcases w.empty_cases with ⟨p', rest', hcons, hact⟩ | ⟨hnil, -⟩
    · obtain ⟨rfl, rfl⟩ := List.cons.inj (hpackets.symm.trans hcons)
      rw [List.length_cons, List.replicate_succ, run_cons, hfirst, hact]
      refine (ih ?_ ?_).trans ?_
      · exact hstage
      · rfl
      · simp [setEngine]
    · cases hpackets.symm.trans hnil

/-- A course between two events of a run: nobody is in the middle of anything. -/
structure Steady (w : Course) : Prop where
  coherent : Coherent w
  waiting : w.waiting = false
  stage : w.stage = .capturing ∧ w.discarded = [] ∨ w.stage = .told

namespace Steady

/-- What the receive loop does leaves the rest of the course alone. -/
theorem of_run_eq (h : Steady w) {acts : List Act} {accepted : List Packet} {e : Engine}
    (hrun : w.run acts = { w.setEngine e with accepted }) : Steady (w.run acts) := by
  have hcoherent := h.coherent.run acts
  rw [hrun] at hcoherent ⊢
  exact ⟨hcoherent, h.waiting, h.stage⟩

/-- A round of a receive loop that runs. -/
theorem round_of_loop (h : Steady w) {s : Session} (hsession : w.monitor.engine.session = some s)
    (hreceiving : s.receiving = true) (hloop : w.loop = some s) (now : Timestamp)
    (wait : Engine.Wait) :
    ∃ acts, (w.run acts).monitor = w.monitor.step (.receive now wait) ∧ Steady (w.run acts) := by
  have hround : ∀ e, w.monitor.engine.round now wait = e →
      w.monitor.step (.receive now wait) = { w.monitor with engine := e } := by
    intro e he
    rw [Monitor.step, he]
  cases wait with
  | ready =>
    -- The looks of the round, and in each of them the records, become acts in the same order.
    obtain ⟨ring, hsources, -⟩ := h.coherent.source
    have hring := Engine.source?_of_sources hsources
    have hdrain : w.monitor.engine.round now .ready
        = (ring.looks ring.blockCount).foldl (Engine.handle s now) w.monitor.engine := by
      rw [← Engine.drain_eq_foldl s now hring]
      simp [Engine.round, hsession, hreceiving, hring]
    obtain ⟨accepted, hrun⟩ := run_looks hloop now (ring.looks ring.blockCount)
    refine ⟨_, ?_, h.of_run_eq hrun⟩
    rw [hrun, hround _ hdrain]
    rfl
  | timedOut => exact ⟨[], (hround w.monitor.engine (by simp [Engine.round, hsession])).symm, h⟩
  | interrupted => exact ⟨[], (hround w.monitor.engine (by simp [Engine.round, hsession])).symm, h⟩
  | failed =>
    have hrun : w.run [.countError]
        = { w.setEngine w.monitor.engine.countError with accepted := w.accepted } :=
      receiving_of_loop hloop Engine.countError
    refine ⟨_, ?_, h.of_run_eq hrun⟩
    rw [hrun, hround w.monitor.engine.countError (by simp [Engine.round, hsession, hreceiving])]
    rfl
  | crashed =>
    have hcoherent := h.coherent.run [.crash]
    have hrun : w.run [.crash]
        = { w.setEngine { w.monitor.engine with session := some { s with receiving := false } } with
            loop := none } := by
      show w.crash = _
      simp only [crash, hloop, hsession, Option.map_some]
    refine ⟨[.crash], ?_, ?_⟩
    · rw [hrun, hround { w.monitor.engine with session := some { s with receiving := false } }
        (by simp [Engine.round, hsession, hreceiving])]
      rfl
    · rw [hrun] at hcoherent ⊢
      exact ⟨hcoherent, h.waiting, h.stage⟩

theorem round (h : Steady w) (now : Timestamp) (wait : Engine.Wait) :
    ∃ acts, (w.run acts).monitor = w.monitor.step (.receive now wait) ∧ Steady (w.run acts) := by
  have hidle : w.monitor.engine.round now wait = w.monitor.engine →
      ∃ acts, (w.run acts).monitor = w.monitor.step (.receive now wait) ∧ Steady (w.run acts) := by
    intro hsame
    refine ⟨[], ?_, h⟩
    rw [Monitor.step, hsame]
    rfl
  rcases h.stage with ⟨hstage, -⟩ | hstage
  · obtain ⟨s, hsession, hloop⟩ := h.coherent.capturing hstage
    by_cases hreceiving : s.receiving = true
    · rw [if_pos hreceiving] at hloop
      exact h.round_of_loop hsession hreceiving hloop now wait
    · exact hidle (by simp [Engine.round, hsession, hreceiving])
  · have hsession := h.coherent.ended (by rw [hstage]; nofun)
    exact hidle (by simp [Engine.round, hsession])

/-- An attempt of the consumer: it looks first, and waits if it was not told to stop. -/
theorem consume (h : Steady w) :
    (w.run [.look, .attempt]).monitor = w.monitor.consume ∧ Steady (w.run [.look, .attempt]) := by
  have hcoherent := h.coherent.run [.look, .attempt]
  let consumer := w.monitor.consumer.observe w.monitor.shutdown
  have hlook : w.look
      = { w with waiting := !consumer.finished, monitor := { w.monitor with consumer } } := by
    rw [look, h.waiting]
    rfl
  have hrun : w.run [.look, .attempt]
      = { w with waiting := false, monitor := w.monitor.consume } := by
    show w.look.attempt = _
    rw [hlook]
    unfold attempt Monitor.consume
    dsimp only
    by_cases hfinished : (w.monitor.consumer.observe w.monitor.shutdown).finished = true
    · simp [consumer, hfinished]
    · simp [consumer, hfinished]
  rw [hrun] at hcoherent ⊢
  exact ⟨rfl, hcoherent, rfl, h.stage⟩

/-- An end from its beginning to its last stage, with nobody in between. -/
theorem finish (h : Steady w) :
    ∃ acts, (w.run acts).monitor = w.monitor.finish ∧ Steady (w.run acts) := by
  rcases h.stage with ⟨hstage, hdiscarded⟩ | hstage
  · have hshutdown : w.monitor.shutdown = false := by
      rw [h.coherent.shutdown, hstage]
      rfl
    obtain ⟨s, hsession, -⟩ := h.coherent.capturing hstage
    obtain ⟨ring, hsources, -⟩ := h.coherent.source
    let front : List Act := [.interrupt, .proceed, .proceed]
    let discards : List Act := List.replicate w.monitor.engine.queue.packets.length .proceed
    let back : List Act := [.proceed, .proceed]
    have hcoherent := h.coherent.run (front ++ discards ++ back)
    have hrun : w.run (front ++ discards ++ back)
        = { w with
            stage := .told
            loop := none
            discarded := w.monitor.engine.queue.packets
            monitor := w.monitor.finish } := by
      have hwaiting := h.waiting
      obtain ⟨⟨target, ⟨phase, counters, queue, retired, sources, session, sinks⟩, receiver,
        consumer, shutdown, noted, reports⟩, stage, loop, waiting, accepted, discarded⟩ := w
      dsimp only at hstage hdiscarded hsession hsources hwaiting hshutdown
      subst hstage hdiscarded hsession hsources hwaiting hshutdown
      rw [run_append, run_append]
      -- The stages before the queue and behind it compute, now that every part has a name.
      exact congrArg (fun v => run v back) (run_empty (w := run _ front) rfl)
    rw [hrun] at hcoherent
    refine ⟨front ++ discards ++ back, by rw [hrun], ?_⟩
    rw [hrun]
    exact ⟨hcoherent, h.waiting, .inr rfl⟩
  · have hshutdown : w.monitor.shutdown = true := by
      rw [h.coherent.shutdown, hstage]
      rfl
    refine ⟨[], ?_, h⟩
    rw [Monitor.finish, if_pos hshutdown]
    rfl

/-- Every event is a course of acts, and nobody is in the middle of anything behind it. -/
theorem step (h : Steady w) (event : Event) :
    ∃ acts, (w.run acts).monitor = w.monitor.step event ∧ Steady (w.run acts) := by
  cases event with
  | receive now wait => exact h.round now wait
  | write offset data =>
    exact ⟨[.write offset data], rfl, h.coherent.act (.write offset data), h.waiting, h.stage⟩
  | consume => exact ⟨_, h.consume⟩
  | report now usage =>
    exact ⟨[.report now usage], rfl, h.coherent.act (.report now usage), h.waiting, h.stage⟩
  | conclude =>
    rw [Monitor.step]
    by_cases hfinished : w.monitor.consumer.finished = true
    · rw [if_pos hfinished]
      exact h.finish
    · rw [if_neg hfinished]
      exact ⟨[], rfl, h⟩
  | interrupt => exact h.finish

end Steady

/-- A run that was just started. -/
theorem steady_begin {platform : Platform} {now : Timestamp} {config : Config}
    {limit : Option Nat} {m : Monitor}
    (hstart : Monitor.start platform now config limit = .ok m) : Steady (begin m) :=
  ⟨coherent_begin hstart, rfl, .inl ⟨rfl, rfl⟩⟩

end Course

end Monitor

end LinkTap
