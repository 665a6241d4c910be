/-
The capture engine: at most one session at a time, started and stopped any number of times.

A session owns a capture source, a queue and a receive loop. The loop waits for its socket and, when
frames are there, drains the ring for at most one lap. Each record that the ring hands on becomes a
packet; it is appended to the queue, or dropped if the queue is full, and counted either way. A
malformed block counts as an error and does not keep the blocks behind it from being drained.

Every operation is a function from engines to engines. The moments at which the outside world has a
say, such as the outcome of a wait or whether a thread could be launched, are arguments.
-/
import LinkTap.Metrics.Sink
import LinkTap.Session.Platform
import LinkTap.Session.Queue

set_option autoImplicit false

namespace LinkTap

/-! ## State -/

/-- Where the engine stands. -/
inductive Phase where
  | idle
  | starting
  | running
  | stopping
  deriving DecidableEq, Repr

/-- An active session. Its source is the one opened last. -/
structure Session where
  interface : Interface
  /-- The queue that its packets go to. -/
  generation : Nat
  startedAt : Timestamp
  /-- Whether the receive loop still runs. -/
  receiving : Bool

/-- The engine together with every source and queue that it ever made. -/
structure Engine where
  phase : Phase := .idle
  counters : Counters := {}
  /-- The current output queue. -/
  queue : Queue := { generation := 0, capacity := 1000 }
  /-- Queues that were replaced, latest first. -/
  retired : List Queue := []
  /-- Sources that were opened, latest first. -/
  sources : List Ring := []
  session : Option Session := none
  sinks : Metrics.Sinks := {}

namespace Engine

def isRunning (e : Engine) : Bool := e.phase == .running

/-- The interface of the active session. -/
def interface? (e : Engine) : Option Interface := e.session.map (·.interface)

/-- How many sources were opened so far. -/
def opened (e : Engine) : Nat := e.sources.length

/-- The source opened last. -/
def source? (e : Engine) : Option Ring := e.sources.head?

/-- The source of the active session. -/
def activeSource? (e : Engine) : Option Ring := if e.session.isSome then e.source? else none

/-- Replace the source opened last. -/
def setSource (e : Engine) (ring : Ring) : Engine := { e with sources := ring :: e.sources.tail }

/-- Release the source opened last. -/
def closeSource (e : Engine) : Engine :=
  match e.source? with
  | some ring => e.setSource ring.close
  | none => e

/-- The counters, with the utilisation of the ring while a session is active. -/
def statistics (e : Engine) : Statistics :=
  Statistics.ofCounters e.counters ((e.activeSource?.map Ring.utilization).getD 0)

/-- Put a new queue in place of the current one. -/
def replaceQueue (e : Engine) (capacity : Nat) : Engine :=
  { e with
    retired := e.queue :: e.retired
    queue := { generation := e.queue.generation + 1, capacity } }

/-! ## Starting and stopping -/

/-- What a start acquires: the interface and a source on it. -/
def acquire (platform : Platform) (target : String) (settings : SessionSettings) :
    Except Error (Interface × Ring) := do
  settings.validate
  let interface ← platform.resolve target
  let ring ← platform.openRing interface settings
  return (interface, ring)

/-- Begin a session over a source that was just opened: counters and queue start afresh, then the
receive loop is launched. If that fails the source is released again. -/
def launch (e : Engine) (now : Timestamp) (interface : Interface) (ring : Ring)
    (settings : SessionSettings) (thread : Except Error Unit) : Engine × Except Error Unit :=
  let fresh := replaceQueue { e with sources := ring :: e.sources, counters := {} }
    settings.queueCapacity
  match thread with
  | .error err => ({ fresh.closeSource with phase := .idle }, .error err)
  | .ok () =>
    let session : Session :=
      { interface, generation := fresh.queue.generation, startedAt := now, receiving := true }
    ({ fresh with session := some session, phase := .running }, .ok ())

/-- Start a session on the interface that `target` denotes. `thread` says whether the receive loop
can be launched once everything else is in place. -/
def start (e : Engine) (platform : Platform) (now : Timestamp) (target : String)
    (settings : SessionSettings) (thread : Except Error Unit) : Engine × Except Error Unit :=
  if e.session.isSome then (e, .error .engineRunning)
  else
    let starting := { e with phase := .starting }
    match acquire platform target settings with
    | .error err => ({ starting with phase := .idle }, .error err)
    | .ok (interface, ring) => launch starting now interface ring settings thread

/-- Stop the session: release its source and discard what is still queued. The answer is the number
of packets discarded. -/
def stop (e : Engine) : Engine × Except Error Nat :=
  match e.session with
  | none => (e, .error .engineNotStarted)
  | some _ =>
    let stopping := { e with session := none, phase := .stopping }
    let discarded := e.queue.packets.length
    let drained := { stopping.closeSource with queue := { e.queue with packets := [] } }
    let replaced := drained.replaceQueue e.queue.capacity
    ({ replaced with phase := .idle }, .ok discarded)

/-- The end of the engine: an active session is stopped. -/
def shutDown (e : Engine) : Engine := e.stop.1

/-! ## Receiving from the ring -/

/-- How a wait of the receive loop ends. -/
inductive Wait where
  /-- Frames are there. -/
  | ready
  | timedOut
  /-- A signal arrived. -/
  | interrupted
  | failed
  /-- The loop comes to a sudden end. -/
  | crashed
  deriving DecidableEq, Repr

/-- Count the error of a wait or of a block. -/
def countError (e : Engine) : Engine := { e with counters := e.counters.countError }

/-- Append a packet to the queue of the session, unless that queue is full or was replaced. -/
def enqueue? (e : Engine) (s : Session) (p : Packet) : Option Queue :=
  if s.generation = e.queue.generation then e.queue.push? p else none

/-- Turn a record into a packet of the session. `utilization` is that of the ring while the record
is handed on. -/
def deliver (s : Session) (now : Timestamp) (utilization : Float) (e : Engine)
    (record : Ring.Record) : Engine :=
  if record.payload.isEmpty then e
  else
    let packet : Packet := ⟨record.time, s.interface.index, record.payload⟩
    match e.enqueue? s packet with
    | none => { e with counters := e.counters.countDrop }
    | some queue =>
      let counters := e.counters.countPacket record.payload.length record.time
      let update : Metrics.Update := ⟨Statistics.ofCounters counters utilization, s.startedAt⟩
      { e with queue, counters, sinks := e.sinks.send now update }

/-- Process at most `limit` blocks and stop at the first one that the producer still owns. -/
def drain (s : Session) (now : Timestamp) : Nat → Engine → Engine
  | 0, e => e
  | limit + 1, e =>
    match e.source? with
    | none => e
    | some ring =>
      let step := ring.process
      let delivered := step.records.foldl (deliver s now ring.utilization) (e.setSource step.ring)
      match step.result with
      | .ok (some _) => drain s now limit delivered
      | .ok none => delivered
      | .error .ringClosed => delivered
      | .error _ => drain s now limit delivered.countError

/-- One round of the receive loop. -/
def round (e : Engine) (now : Timestamp) (wait : Wait) : Engine :=
  match e.session with
  | none => e
  | some s =>
    if !s.receiving then e
    else
      match wait with
      | .ready =>
        match e.source? with
        | some ring => drain s now ring.blockCount e
        | none => e
      | .timedOut | .interrupted => e
      | .failed => e.countError
      | .crashed => { e with session := some { s with receiving := false } }

/-- The kernel writes into the memory of the source opened last. -/
def writeMemory (e : Engine) (offset : Nat) (data : Bytes) : Option Engine := do
  let ring ← e.source?
  let region ← ring.region.write offset data
  return e.setSource { ring with region }

/-! ## Receiving from the queue -/

/-- A receiver of the current queue. -/
def receiver (e : Engine) : Receiver := ⟨e.queue.generation⟩

/-- Take the oldest packet of the replaced queue with the given generation, if one is left there. -/
def takeRetired (generation : Nat) : List Queue → Option (Packet × List Queue)
  | [] => none
  | q :: rest =>
    if q.generation = generation then (q.pop?).map fun (p, q) => (p, q :: rest)
    else (takeRetired generation rest).map fun (p, rest) => (p, q :: rest)

/-- One attempt to receive. -/
def receive (e : Engine) (r : Receiver) : Engine × Reception :=
  if r.generation = e.queue.generation then
    match e.queue.pop? with
    | some (p, queue) => ({ e with queue }, .packet p)
    | none => (e, .empty)
  else
    match takeRetired r.generation e.retired with
    | some (p, retired) => ({ e with retired }, .packet p)
    | none => (e, .disconnected)

/-! ## Metrics -/

/-- Install a sink for session reports, or none. -/
def installSink (e : Engine) (target : Option Metrics.Target) : Engine :=
  { e with sinks := { e.sinks with installed := target } }

/-- Empty the journal and answer what was in it. -/
def takeJournal (e : Engine) : Engine × List Metrics.Update :=
  ({ e with sinks := { e.sinks with journal := [] } }, e.sinks.journal)

end Engine

end LinkTap
