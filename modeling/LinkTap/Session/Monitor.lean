/-
One capture run: an engine, a consumer of its packets, and a supervisor.

Three parties act on their own: the receive loop fills the queue, the consumer empties it, and the
supervisor reports from time to time and waits for an end. The end comes from the consumer, once it
has enough, or from outside as an interruption. Either way the supervisor stops the engine, which
discards what is still queued, tells the consumer to stop, waits for it, and sums up.

A run is a list of events, so that every order in which the parties can act is a list.
-/
import LinkTap.Config
import LinkTap.Session.Consumer
import LinkTap.Session.Engine

set_option autoImplicit false

namespace LinkTap

/-- The interface that the configuration asks for, checked; the default one if it asks for any. -/
def Platform.target (p : Platform) (c : Config) : Except Error Interface :=
  if c.wantsDefaultInterface then do
    let chosen ← p.selectDefault
    p.validate chosen.name
  else p.validate c.interface

/-- A periodic report. -/
structure Report where
  statistics : Statistics
  process : Metrics.ProcessReading

namespace Report

/-- The drop rate in per cent above which a report carries a warning. -/
def warningThreshold : Float := 1

/-- Whether the report carries a warning about drops. -/
def warns (r : Report) : Bool := r.statistics.hasSignificantDrops warningThreshold

end Report

/-- The state of a capture run. -/
structure Monitor where
  target : Interface
  engine : Engine
  receiver : Receiver
  consumer : Consumer
  /-- Whether the consumer has been told to stop. -/
  shutdown : Bool := false
  /-- How many packets the end of the session discarded. -/
  discarded : Option Nat := none
  reports : List Report := []

namespace Monitor

/-- Start a run. -/
def start (platform : Platform) (now : Timestamp) (config : Config) (limit : Option Nat) :
    Except Error Monitor := do
  let target ← platform.target config
  let idle := ({} : Engine).installSink (some .gauge)
  match idle.start platform now target.name config.session (.ok ()) with
  | (_, .error e) => throw e
  | (engine, .ok ()) =>
    return { target
             engine
             receiver := engine.receiver
             consumer := { snapLength := config.snapLength, limit } }

/-! ## Events -/

/-- What can happen during a run. -/
inductive Event where
  /-- A round of the receive loop. -/
  | receive (now : Timestamp) (wait : Engine.Wait)
  /-- The kernel writes into the ring. -/
  | write (offset : Nat) (data : Bytes)
  /-- The consumer makes one attempt to receive. -/
  | consume
  /-- The supervisor reports, with what the process uses if that is known. -/
  | report (now : Timestamp) (usage : Option (Float × Nat))
  /-- The supervisor notices that the consumer has finished. -/
  | conclude
  /-- The run is interrupted from outside. -/
  | interrupt

/-- One attempt of the consumer. -/
def consume (m : Monitor) : Monitor :=
  let consumer := m.consumer.observe m.shutdown
  if consumer.finished then { m with consumer }
  else
    let (engine, reception) := m.engine.receive m.receiver
    { m with engine, consumer := consumer.handle reception }

/-- Make a report. -/
def report (m : Monitor) (now : Timestamp) (usage : Option (Float × Nat)) : Monitor :=
  let sinks := m.engine.sinks
  let gauge :=
    match usage with
    | some (memoryMb, threads) => sinks.gauge.recordProcess now memoryMb threads
    | none => sinks.gauge
  let engine := { m.engine with sinks := { sinks with gauge } }
  { m with
    engine
    reports := m.reports ++ [{ statistics := engine.statistics, process := gauge.process }] }

/-- Stop the engine and tell the consumer. A run that has ended stays as it is. -/
def finish (m : Monitor) : Monitor :=
  if m.shutdown then m
  else
    match m.engine.stop with
    | (engine, .ok discarded) => { m with engine, shutdown := true, discarded := some discarded }
    | (engine, .error _) => { m with engine, shutdown := true }

/-- The run after one event. -/
def step (m : Monitor) : Event → Monitor
  | .receive now wait => { m with engine := m.engine.round now wait }
  | .write offset data => { m with engine := (m.engine.writeMemory offset data).getD m.engine }
  | .consume => m.consume
  | .report now usage => m.report now usage
  | .conclude => if m.consumer.finished then m.finish else m
  | .interrupt => m.finish

/-- The run after a list of events. -/
def run (m : Monitor) (events : List Event) : Monitor := events.foldl step m

/-- As many attempts of the consumer as empty the queue and notice that it is empty. -/
def consumeAll (m : Monitor) : Monitor :=
  m.run (List.replicate (m.engine.queue.packets.length + 1) .consume)

/-- Let the consumer empty the queue, then end the run: on the consumer's word if it has enough, and
by an interruption otherwise. -/
def settle (m : Monitor) : Monitor := m.consumeAll.run [.conclude, .interrupt, .consume]

/-! ## Summing up -/

/-- Nanoseconds as seconds. -/
def seconds (nanos : Nat) : Float :=
  countToFloat (nanos / nanosPerSecond) + countToFloat (nanos % nanosPerSecond) / 1e9

/-- The closing summary of a run. -/
def summary (m : Monitor) : List String :=
  let uptime := FixedPlaces.render 1 (seconds m.engine.sinks.gauge.capture.uptime)
  ["", s!"=== Final Statistics ({m.target.name}) ==="]
    ++ m.engine.statistics.lines
    ++ [s!"Processed: {m.consumer.processed} packets", s!"Uptime: {uptime}s"]

end Monitor

end LinkTap
