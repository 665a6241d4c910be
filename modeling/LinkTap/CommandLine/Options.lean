/-
The options of the program: how each one is spelled and what values it takes.

Options of the program itself stand before the command. Three of them may also stand behind it. Each
of the program's own options can be given in the environment instead, under its name in capitals.
-/
import LinkTap.Text.Line
import LinkTap.Text.Numeral

set_option autoImplicit false

namespace LinkTap.CommandLine

/-- Why the command line asks for no run: it is wrong, or it asks for information only. -/
inductive Halt where
  /-- An option or an operand that is not known here. -/
  | unknownArgument
  /-- A word where only a command can stand. -/
  | invalidSubcommand
  /-- An option without its value, or a switch with a value that is neither true nor false. -/
  | invalidValue
  /-- A value that is not of the option's kind. -/
  | valueValidation
  /-- An option given twice. -/
  | argumentConflict
  /-- A switch with a value on the command line. -/
  | tooManyValues
  | help
  | version
  deriving DecidableEq, Repr

/-- Every option. -/
inductive Key where
  | interface
  | snapLength
  | promiscuous
  | timeoutMs
  | bufferSize
  | ringBlockSize
  | ringBlockCount
  | channelBufferSize
  | logLevel
  | logFormat
  | statsInterval
  | count
  | help
  | version
  deriving DecidableEq, Repr

/-- What kind of value an option takes. -/
inductive Kind where
  | text
  /-- An unsigned decimal numeral of 64 bits. -/
  | word64
  /-- A decimal numeral that is read with a sign and must lie in 32 bits. -/
  | word32
  /-- No value; the option is given or not. -/
  | switch
  /-- No value; the option asks for information instead of a run. -/
  | halt (h : Halt)
  deriving DecidableEq, Repr

/-- The value of an option. -/
inductive Value where
  | text (s : String)
  | number (n : Nat)
  | switch (on : Bool)
  deriving DecidableEq, Repr

/-- The commands. -/
inductive Subcommand where
  | interfaces
  | validate
  | capture
  deriving DecidableEq, Repr

namespace Subcommand

def name : Subcommand → String
  | interfaces => "interfaces"
  | validate => "validate"
  | capture => "capture"

def all : List Subcommand := [interfaces, validate, capture]

def ofName? (s : String) : Option Subcommand := all.find? fun c => c.name == s

end Subcommand

namespace Key

/-- The program's own options, in the order in which the environment is consulted. -/
def program : List Key :=
  [interface, snapLength, promiscuous, timeoutMs, bufferSize, ringBlockSize, ringBlockCount,
   channelBufferSize, logLevel, logFormat, statsInterval]

/-- The options that may also stand behind a command. -/
def shared : List Key := [interface, logLevel, logFormat]

/-- The spelling behind two dashes. -/
def long : Key → String
  | interface => "interface"
  | snapLength => "snap-length"
  | promiscuous => "promiscuous"
  | timeoutMs => "timeout-ms"
  | bufferSize => "buffer-size"
  | ringBlockSize => "ring-block-size"
  | ringBlockCount => "ring-block-count"
  | channelBufferSize => "channel-buffer-size"
  | logLevel => "log-level"
  | logFormat => "log-format"
  | statsInterval => "stats-interval"
  | count => "count"
  | help => "help"
  | version => "version"

/-- The spelling behind one dash, for options that have one. -/
def short? : Key → Option Char
  | interface => some 'I'
  | promiscuous => some 'p'
  | count => some 'c'
  | help => some 'h'
  | version => some 'V'
  | _ => none

def kind : Key → Kind
  | interface | logLevel | logFormat => .text
  | snapLength => .word32
  | promiscuous => .switch
  | timeoutMs | bufferSize | ringBlockSize | ringBlockCount | channelBufferSize | statsInterval
  | count => .word64
  | help => .halt .help
  | version => .halt .version

/-- The environment variable that stands in for the option. -/
def environmentName? (k : Key) : Option String :=
  if program.contains k then
    some ("NETWATCH_" ++ (k.long.map fun c => if c = '-' then '_' else c.toUpper))
  else none

/-- Whether the option needs a value on the command line. -/
def takesValue (k : Key) : Bool :=
  match k.kind with
  | .text | .word64 | .word32 => true
  | .switch | .halt _ => false

/-- The value that a text denotes for this option. -/
def parseValue (k : Key) (s : String) : Except Halt Value :=
  match k.kind with
  | .text => .ok (.text s)
  | .word64 =>
    match Numeral.word64? s.toList with
    | some n => .ok (.number n)
    | none => .error .valueValidation
  | .word32 =>
    match Numeral.int64? s.toList with
    | some n =>
      if 0 ≤ n ∧ n.toNat < UInt32.size then .ok (.number n.toNat) else .error .valueValidation
    | none => .error .valueValidation
  | .switch =>
    if s == "true" then .ok (.switch true)
    else if s == "false" then .ok (.switch false)
    else .error .invalidValue
  | .halt h => .error h

end Key

end LinkTap.CommandLine
