/-
The program: from a command line, an environment and a host to what is printed and the exit code.

The settings are checked before anything is done. Listing shows every interface with its score and
the default choice. Checking says whether frames can be captured on a target. Capturing receives
what the host offers in one lap of the ring, consumes it, and prints a summary. An error ends the
program with code 1, a wrong command line with code 2.
-/
import LinkTap.CommandLine.Arguments
import LinkTap.Session.Monitor

set_option autoImplicit false

namespace LinkTap.Program

/-- What a run leaves behind. -/
structure Outcome where
  code : Nat
  output : String := ""
  errors : String := ""
  deriving DecidableEq, Repr

/-- Name and version of the program. -/
def version : String := "netwatch 0.1.0"

/-- A short description of the command line. -/
def usage : List String :=
  [ "Low-overhead packet capture and traffic statistics",
    "",
    "Usage: netwatch [OPTIONS] [COMMAND]",
    "",
    "Commands:",
    "  interfaces            List network interfaces with their capture scores",
    "  validate [INTERFACE]  Check that an interface can be captured on",
    "  capture [-c COUNT]    Capture until Ctrl-C (the default command)",
    "",
    "Options:" ]
    ++ CommandLine.Key.program.map fun k =>
      match k.short? with
      | some c => s!"  -{c}, --{k.long}"
      | none => s!"      --{k.long}"

/-! ## Commands -/

/-- The lines about one interface. -/
def interfaceLines (i : Interface) : List String :=
  let state := if i.isUp then "up" else "down"
  let columns :=
    [ Line.padLeft 3 (toString i.index) ++ " ",
      Line.padRight 16 i.name,
      i.kind.text,
      Line.padRight 5 state,
      "mtu " ++ Line.padRight 6 (toString i.mtu),
      "score " ++ Line.padRight 4 (toString i.score),
      s!"rx {i.counters.rxPackets} pkts / {i.counters.rxBytes} bytes" ]
  [String.intercalate " " columns]
    ++ (i.mac.map fun m => s!"       mac {m.text}").toList
    ++ i.ips.map fun ip => s!"       inet {ip.text}"

/-- The list of interfaces and the default choice. -/
def listInterfaces (p : Platform) : Except Error (List String) := do
  let interfaces ← p.list
  let choice :=
    match p.selectDefault with
    | .ok i => s!"default: {i.name}"
    | .error e => s!"no default interface: {e.message}"
  return interfaces.flatMap interfaceLines ++ ["", choice]

/-- The answer to whether a target can be captured on. -/
def checkTarget (p : Platform) (c : Config) : Except Error (List String) := do
  let i ← p.target c
  return [s!"{i.name} (index {i.index}) is ready for capture"]

/-- Receive one lap of the ring, consume it, and sum up. -/
def capture (p : Platform) (now : Timestamp) (c : Config) (limit : Option Nat) :
    Except Error (List String) := do
  let started ← Monitor.start p now c limit
  return (started.run [.receive now .ready]).settle.summary

/-- Carry out a command. -/
def perform (p : Platform) (now : Timestamp) (c : Config) :
    CommandLine.Command → Except Error (List String)
  | .interfaces => listInterfaces p
  | .validate target => checkTarget p { c with interface := target.getD c.interface }
  | .capture limit => capture p now c limit

/-! ## The whole program -/

/-- Run with arguments that could be read. -/
def runWith (p : Platform) (now : Timestamp) (a : CommandLine.Arguments) :
    Except Error (List String) := do
  a.config.validate
  perform p now a.config a.command

/-- Run with a command line, without the name of the program. -/
def run (p : Platform) (now : Timestamp) (environment : List (String × String))
    (arguments : List String) : Outcome :=
  match CommandLine.parse environment arguments with
  | .error .version => { code := 0, output := Line.unlines [version] }
  | .error .help => { code := 0, output := Line.unlines usage }
  | .error _ => { code := 2, errors := Line.unlines ["error: invalid command line", ""] ++
      Line.unlines usage }
  | .ok a =>
    match runWith p now a with
    | .ok lines => { code := 0, output := Line.unlines lines }
    | .error e => { code := 1, errors := Line.unlines [s!"Error: {e.diagnostic}"] }

end LinkTap.Program
