/-
Where the numbers of a running session go.

A session reports once for each packet it receives. A journal keeps every report. A gauge keeps only
the latest one, next to the latest reading of what the process uses, and can be switched off: while
it is off nothing reaches it. Switching does not touch what it holds, and clearing does not touch
the switch.
-/
import LinkTap.Statistics

set_option autoImplicit false

namespace LinkTap.Metrics

/-- One report of a session. -/
structure Update where
  statistics : Statistics
  /-- When the session began. -/
  startedAt : Timestamp

/-- The session numbers that a gauge shows. -/
structure CaptureReading where
  statistics : Statistics := {}
  startedAt : Option Timestamp := none
  /-- Age of the session in nanoseconds when the numbers arrived. -/
  uptime : Nat := 0

/-- The process numbers that a gauge shows. -/
structure ProcessReading where
  memoryMb : Float := 0
  threads : Nat := 0
  updatedAt : Option Timestamp := none

/-- A sink that holds the latest readings. -/
structure Gauge where
  capture : CaptureReading := {}
  process : ProcessReading := {}
  enabled : Bool := true

namespace Gauge

/-- Take a session report that arrives at time `now`. A session that starts in the future has no
age. -/
def recordCapture (g : Gauge) (now : Timestamp) (u : Update) : Gauge :=
  if g.enabled then
    { g with
      capture :=
        { statistics := u.statistics
          startedAt := some u.startedAt
          uptime := u.startedAt.elapsed now } }
  else g

/-- Take a process reading that arrives at time `now`. -/
def recordProcess (g : Gauge) (now : Timestamp) (memoryMb : Float) (threads : Nat) : Gauge :=
  if g.enabled then { g with process := { memoryMb, threads, updatedAt := some now } } else g

/-- Switch on. -/
def enable (g : Gauge) : Gauge := { g with enabled := true }

/-- Switch off. -/
def disable (g : Gauge) : Gauge := { g with enabled := false }

/-- Forget all readings. -/
def reset (g : Gauge) : Gauge := { g with capture := {}, process := {} }

end Gauge

/-- Which sink a session reports to. -/
inductive Target where
  | journal
  | gauge
  deriving DecidableEq, Repr

/-- The sinks that a session can report to, and the one that is installed. -/
structure Sinks where
  journal : List Update := []
  gauge : Gauge := {}
  installed : Option Target := none

namespace Sinks

/-- Hand a report that arises at time `now` to the installed sink. -/
def send (s : Sinks) (now : Timestamp) (u : Update) : Sinks :=
  match s.installed with
  | none => s
  | some .journal => { s with journal := s.journal ++ [u] }
  | some .gauge => { s with gauge := s.gauge.recordCapture now u }

end Sinks

end LinkTap.Metrics
