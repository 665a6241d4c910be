/-
The settings of one run of the program, and what they must satisfy.

Settings come from the command line or the environment and are checked once, in a fixed order; the
first setting outside its range is reported. Durations are in nanoseconds.
-/
import LinkTap.Error
import LinkTap.Session.Settings
import LinkTap.Text.Line
import LinkTap.Timestamp

set_option autoImplicit false

namespace LinkTap

/-! ## Log format -/

/-- How log events are written. -/
inductive LogFormat where
  | json
  | text
  deriving DecidableEq, Repr

namespace LogFormat

def name : LogFormat → String
  | json => "json"
  | text => "text"

/-- Read the name of a format, in letters of either case. -/
def parse (s : String) : Except Error LogFormat :=
  let lower := Line.toLower s
  if lower == "json" then .ok json
  else if lower == "text" then .ok text
  else .error (.invalidConfig "log_format" s!"'{lower}' is not one of: json, text")

end LogFormat

/-! ## Settings -/

/-- The interface name that asks for the default interface. -/
def anyInterface : String := "any"

/-- The settings of one run. -/
structure Config where
  interface : String := anyInterface
  /-- Octets of each packet that are decoded. -/
  snapLength : Nat := 1600
  promiscuous : Bool := false
  /-- How long the consumer waits before it looks for an end of the run. -/
  timeout : Nat := nanosPerSecond / 10
  /-- Octets of the whole ring, used when no block count is given. -/
  bufferSize : Nat := 32 * 1024 * 1024
  ringBlockSize : Nat := 32 * 1024
  ringBlockCount : Option Nat := none
  channelBufferSize : Nat := 1000
  logLevel : String := "info"
  logFormat : String := "json"
  statsInterval : Nat := 5 * nanosPerSecond
  deriving DecidableEq, Repr

namespace Config

def minSnapLength : Nat := 64

def maxSnapLength : Nat := 65535

def minBufferSize : Nat := 1024

def maxBufferSize : Nat := 1024 * 1024 * 1024

/-- The log levels that can be chosen. -/
def logLevels : List String := ["debug", "info", "warn", "error"]

/-- Refuse unless a condition holds. -/
def require (condition : Bool) (name reason : String) : Except Error Unit :=
  if condition then .ok () else .error (.invalidConfig name reason)

/-- Check every setting against its range. -/
def validate (c : Config) : Except Error Unit := do
  require (!c.interface.isEmpty) "interface" "cannot be empty"
  require (minSnapLength ≤ c.snapLength && c.snapLength ≤ maxSnapLength) "snap_length"
    s!"must be between {minSnapLength} and {maxSnapLength}, got {c.snapLength}"
  require (c.timeout != 0) "timeout" "must be positive"
  require (minBufferSize ≤ c.bufferSize) "buffer_size"
    s!"must be at least 1KB, got {c.bufferSize}"
  require (c.bufferSize ≤ maxBufferSize) "buffer_size"
    s!"must not exceed 1GB, got {c.bufferSize}"
  require (c.ringBlockSize != 0) "ring_block_size" "must be positive"
  require (c.ringBlockCount != some 0) "ring_block_count" "must be positive"
  require (c.channelBufferSize != 0) "channel_buffer_size" "must be positive"
  require (c.statsInterval != 0) "stats_interval" "must be positive"
  require (logLevels.contains (Line.toLower c.logLevel)) "log_level"
    (s!"'{c.logLevel}' is not one of: " ++ String.intercalate ", " logLevels)
  let _ ← LogFormat.parse c.logFormat
  return ()

/-- Whether the default interface is asked for. -/
def wantsDefaultInterface (c : Config) : Bool := Line.sameIgnoringCase c.interface anyInterface

/-- The log format; JSON if the setting names none. -/
def format (c : Config) : LogFormat :=
  match LogFormat.parse c.logFormat with
  | .ok f => f
  | .error _ => .json

/-- Blocks of the ring: as given, or as many as fit the buffer, and at least one. -/
def blockCount (c : Config) : Nat :=
  match c.ringBlockCount with
  | some n => n
  | none => max 1 (c.bufferSize / max 1 c.ringBlockSize)

/-- What a capture session is started with. -/
def session (c : Config) : SessionSettings :=
  { blockSize := c.ringBlockSize
    blockCount := c.blockCount
    queueCapacity := c.channelBufferSize
    promiscuous := c.promiscuous }

end Config

/-! ## Log filter -/

/-- The names of log levels, from silent to most verbose. -/
def filterLevels : List String := ["off", "error", "warn", "info", "debug", "trace"]

/-- The level below which log events are dropped. A level from the environment wins over the
configured one, unless it names no level; an empty one sets no level at all. An empty configured
level asks for errors only. -/
def logFilter (level : String) (fromEnvironment : Option String) : String :=
  let configured := if level.isEmpty then "error" else Line.toLower level
  let named := (fromEnvironment.map Line.toLower).filter fun name =>
    name.isEmpty || filterLevels.contains name
  named.getD configured

end LinkTap
