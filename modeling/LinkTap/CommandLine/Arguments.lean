/-
The command line as a whole: options of the program, a command, and the environment behind them.

A value on the command line wins over the environment, and the environment over the default. An
option that is given both before and behind the command takes the value behind it. The arguments of
the command are read before the program's own values are examined for the last time, so a fault of
the command is reported first.
-/
import LinkTap.CommandLine.Parser
import LinkTap.Config

set_option autoImplicit false

namespace LinkTap.CommandLine

/-- What the program is asked to do. -/
inductive Command where
  | interfaces
  /-- Check a target; without one the configured interface. -/
  | validate (target : Option String)
  /-- Capture, at most `count` packets if that is given. -/
  | capture (count : Option Nat)
  deriving DecidableEq, Repr

/-- The arguments of one run. -/
structure Arguments where
  interface : String
  snapLength : Nat
  promiscuous : Bool
  timeoutMs : Nat
  bufferSize : Nat
  ringBlockSize : Option Nat
  ringBlockCount : Option Nat
  channelBufferSize : Nat
  logLevel : String
  logFormat : String
  statsInterval : Nat
  /-- The command, if one was given. -/
  given : Option Command
  deriving DecidableEq, Repr

namespace Arguments

/-- The command to carry out; capture without a limit when none is given. -/
def command (a : Arguments) : Command := a.given.getD (.capture none)

/-- The settings that the arguments ask for. -/
def config (a : Arguments) : Config :=
  { interface := a.interface
    snapLength := a.snapLength
    promiscuous := a.promiscuous
    timeout := a.timeoutMs * 1000000
    bufferSize := a.bufferSize
    ringBlockSize := a.ringBlockSize.getD { : SessionSettings }.blockSize
    ringBlockCount := a.ringBlockCount
    channelBufferSize := a.channelBufferSize
    logLevel := a.logLevel
    logFormat := a.logFormat
    statsInterval := a.statsInterval * nanosPerSecond }

/-- A value as a number. -/
def number? : Option Value → Option Nat
  | some (.number n) => some n
  | _ => none

/-- A value as a text. -/
def text? : Option Value → Option String
  | some (.text s) => some s
  | _ => none

/-- A value as a switch. -/
def switch? : Option Value → Option Bool
  | some (.switch on) => some on
  | _ => none

/-- Put together what the two levels gave. -/
def ofMatches (program command : Matches) (given : Option Command) : Arguments :=
  let value (k : Key) : Option Value := (command.value? k).or (program.value? k)
  { interface := (text? (value .interface)).getD anyInterface
    snapLength := (number? (value .snapLength)).getD 1600
    promiscuous := (switch? (value .promiscuous)).getD false
    timeoutMs := (number? (value .timeoutMs)).getD 100
    bufferSize := (number? (value .bufferSize)).getD (32 * 1024 * 1024)
    ringBlockSize := number? (value .ringBlockSize)
    ringBlockCount := number? (value .ringBlockCount)
    channelBufferSize := (number? (value .channelBufferSize)).getD 1000
    logLevel := (text? (value .logLevel)).getD "info"
    logFormat := (text? (value .logFormat)).getD "json"
    statsInterval := (number? (value .statsInterval)).getD 5
    given }

end Arguments

/-- How the command `help` ends: it describes the program or one command and knows no more words. -/
def helpFor : List String → Halt
  | [] => .help
  | [word] => if Level.program.isCommand word then .help else .invalidSubcommand
  | _ => .invalidSubcommand

/-- The command that a level's matches stand for. -/
def Command.ofMatches (name : Subcommand) (m : Matches) : Command :=
  match name with
  | .interfaces => .interfaces
  | .validate => .validate m.operand
  | .capture => .capture (Arguments.number? (m.value? .count))

/-- Read the arguments of a command. -/
def readSubcommand (name : Subcommand) (arguments : List String) : Except Halt Matches := do
  let (m, _) ← readLevel (Level.ofSubcommand name) {} arguments
  m.settle

/-- Settle the program's own options and complete them from the environment. -/
def finish (environment : List (String × String)) (m : Matches) : Except Halt Matches := do
  let m ← m.settle
  readEnvironment environment m Key.program

/-- Read the command line of a run, without the name of the program. -/
def parse (environment : List (String × String)) (arguments : List String) :
    Except Halt Arguments := do
  let (program, rest) ← readLevel .program {} arguments
  match rest with
  | none => return .ofMatches (← finish environment program) {} none
  | some (word, rest) =>
    match Subcommand.ofName? word with
    | none => throw (helpFor rest)
    | some name =>
      let command ← readSubcommand name rest
      let program ← finish environment program
      return .ofMatches program command (some (.ofMatches name command))

end LinkTap.CommandLine
