/-
Reading one level of the command line: the program's own arguments, or those of a command.

Arguments are read from left to right. An argument that begins with two dashes is a long option, one
that begins with one dash is a cluster of short options, `--` ends the options, and anything else is
an operand or a command. A value may be attached to its option or be the argument behind it; in the
second place it must not look like an option itself.

An option whose value is still to come, or has come as an argument of its own, is settled when the
next option or operand begins. So of two faults on one line it is not always the one further left
that is reported: an unknown option is refused at once, before an earlier value is examined.
-/
import LinkTap.CommandLine.Options

set_option autoImplicit false

namespace LinkTap.CommandLine

/-! ## Levels -/

/-- What may stand at one level of the command line. -/
structure Level where
  options : List Key
  /-- Whether commands may follow. -/
  commands : Bool
  /-- Whether one operand may be given. -/
  operand : Bool

/-- The level of the program itself. -/
def Level.program : Level :=
  { options := Key.program ++ [.help, .version], commands := true, operand := false }

/-- The level of a command. -/
def Level.ofSubcommand : Subcommand → Level
  | .interfaces => { options := Key.shared ++ [.help], commands := false, operand := false }
  | .validate => { options := Key.shared ++ [.help], commands := false, operand := true }
  | .capture => { options := Key.shared ++ [.count, .help], commands := false, operand := false }

namespace Level

def long? (l : Level) (name : String) : Option Key := l.options.find? fun k => k.long == name

def short? (l : Level) (c : Char) : Option Key := l.options.find? fun k => k.short? == some c

/-- Whether a word is a command here; `help` is one wherever commands are. -/
def isCommand (l : Level) (word : String) : Bool :=
  l.commands && (word == "help" || (Subcommand.ofName? word).isSome)

end Level

/-! ## What has been read -/

/-- What one level has given so far. -/
structure Matches where
  /-- Settled options with their values. -/
  values : List (Key × Value) := []
  /-- The option that is not settled yet, with its value if that has come. -/
  pending : Option (Key × Option String) := none
  operand : Option String := none
  /-- Whether `--` has come. -/
  escaped : Bool := false
  deriving DecidableEq, Repr

namespace Matches

def value? (m : Matches) (k : Key) : Option Value := m.values.lookup k

/-- Settle an option that was given with a value. -/
def add (m : Matches) (k : Key) (s : String) : Except Halt Matches :=
  if (m.value? k).isSome then .error .argumentConflict
  else (k.parseValue s).map fun v => { m with values := m.values ++ [(k, v)] }

/-- Settle the pending option, if there is one. -/
def settle (m : Matches) : Except Halt Matches :=
  match m.pending with
  | none => .ok m
  | some (_, none) => .error .invalidValue
  | some (k, some s) => { m with pending := none }.add k s

/-- Take an option that has no value. -/
def takeFlag (m : Matches) (k : Key) : Except Halt Matches := do
  let m ← m.settle
  match k.kind with
  | .halt h => throw h
  | _ => m.add k "true"

/-- Take an option that has a value, attached or still to come. -/
def takeOption (m : Matches) (k : Key) (attached : Option String) : Except Halt Matches := do
  let m ← m.settle
  match attached with
  | some s => m.add k s
  | none => return { m with pending := some (k, none) }

/-- Whether the next argument is the value of the pending option. -/
def awaitsValue (m : Matches) : Bool :=
  match m.pending with
  | some (_, none) => true
  | _ => false

/-- Take an argument as the value of the pending option. -/
def giveValue (m : Matches) (s : String) : Matches :=
  match m.pending with
  | some (k, none) => { m with pending := some (k, some s) }
  | _ => m

end Matches

/-! ## Arguments -/

/-- What an argument looks like. -/
inductive Shape where
  | escape
  | long (name : String) (attached : Option String)
  | cluster (flags : List Char)
  | word
  deriving DecidableEq, Repr

/-- Cut at the first equals sign. -/
def cutAtEquals : List Char → List Char × Option (List Char)
  | [] => ([], none)
  | '=' :: rest => ([], some rest)
  | c :: rest => ((c :: (cutAtEquals rest).1), (cutAtEquals rest).2)

/-- Tell options from words. A single dash is a word. -/
def shapeOf (argument : String) : Shape :=
  match argument.toList with
  | ['-', '-'] => .escape
  | '-' :: '-' :: rest =>
    let (name, attached) := cutAtEquals rest
    .long (String.ofList name) (attached.map String.ofList)
  | ['-'] => .word
  | '-' :: flags => .cluster flags
  | _ => .word

/-- Take a long option. -/
def takeLong (l : Level) (m : Matches) (name : String) (attached : Option String) :
    Except Halt Matches :=
  match l.long? name with
  | none => .error .unknownArgument
  | some k =>
    if k.takesValue then m.takeOption k attached
    else if attached.isSome then .error .tooManyValues
    else m.takeFlag k

/-- What is attached to a short option; an equals sign in front does not belong to it. -/
def attachedTo : List Char → Option String
  | [] => none
  | '=' :: rest => some (String.ofList rest)
  | cs => some (String.ofList cs)

/-- Take a cluster of short options. One that takes a value takes all that is left. -/
def takeCluster (l : Level) (m : Matches) : List Char → Except Halt Matches
  | [] => .ok m
  | c :: rest =>
    match l.short? c with
    | none => .error .unknownArgument
    | some k =>
      if k.takesValue then m.takeOption k (attachedTo rest)
      else (m.takeFlag k).bind fun m => takeCluster l m rest

/-- Take a word that is neither a value nor a command. -/
def takeWord (l : Level) (m : Matches) (word : String) : Except Halt Matches :=
  if l.operand && m.operand.isNone then
    m.settle.map fun m => { m with operand := some word }
  else if !l.commands || (m.escaped && l.isCommand word) then .error .unknownArgument
  else .error .invalidSubcommand

/-- Take one argument that is not a command. -/
def takeArgument (l : Level) (m : Matches) (argument : String) : Except Halt Matches :=
  if m.escaped then takeWord l m argument
  else
    match shapeOf argument with
    | .escape => .ok { m with escaped := true }
    | .long name attached => takeLong l m name attached
    | .cluster flags => takeCluster l m flags
    | .word => if m.awaitsValue then .ok (m.giveValue argument) else takeWord l m argument

/-- Read arguments up to a command. The answer is what was read, and the command with the arguments
behind it. -/
def readLevel (l : Level) (m : Matches) :
    List String → Except Halt (Matches × Option (String × List String))
  | [] => .ok (m, none)
  | argument :: rest =>
    if !m.escaped && !m.awaitsValue && l.isCommand argument then .ok (m, some (argument, rest))
    else (takeArgument l m argument).bind fun m => readLevel l m rest

/-! ## The environment -/

/-- Take options that are not on the command line from the environment. -/
def readEnvironment (environment : List (String × String)) (m : Matches) :
    List Key → Except Halt Matches
  | [] => .ok m
  | k :: rest =>
    let given : Option String :=
      if (m.value? k).isSome then none
      else k.environmentName?.bind fun name => environment.lookup name
    match given with
    | none => readEnvironment environment m rest
    | some s => (m.add k s).bind fun m => readEnvironment environment m rest

end LinkTap.CommandLine
