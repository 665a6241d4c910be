/-
What the library needs from a host: its interfaces, whether the caller may capture, and ring memory.

Opening a source maps ring memory for an interface and lays a ring over it, so every opened source
begins with an unreleased ring whose cursor is on the first block.
-/
import LinkTap.Interface
import LinkTap.Ring.Buffer
import LinkTap.Session.Settings

set_option autoImplicit false

namespace LinkTap

/-- The services of a host. -/
structure Platform where
  name : String
  /-- The interfaces, in the order in which the host lists them. -/
  interfaces : List Interface
  /-- Whether the caller may open capture sockets. -/
  privileges : Except Error Unit
  /-- Acquire ring memory that the kernel fills with frames of an interface. -/
  mapRing : Interface → SessionSettings → Except Error Region

namespace Platform

/-- Open a capture source. -/
def openRing (p : Platform) (i : Interface) (s : SessionSettings) : Except Error Ring := do
  let region ← p.mapRing i s
  Ring.create region s.blockSize s.blockCount

/-- A host without a capture facility: its interfaces can be listed and nothing more. -/
def unsupported (name system : String) (interfaces : List Interface) : Platform :=
  { name
    interfaces
    privileges := .error (.platformNotSupported system)
    mapRing := fun _ _ => .error (.platformNotSupported system) }

/-- A host whose rings are plain memory with recorded blocks in it: `writes` stand for what the
kernel puts there. The memory is as long as `length` says, by default as long as the ring needs. -/
def replay (name : String) (interfaces : List Interface) (length : Option Nat)
    (writes : List (Nat × Bytes)) : Platform :=
  { name
    interfaces
    privileges := .ok ()
    mapRing := fun _ s => .ok ((Region.zeroed (length.getD s.ringSize)).writeAll writes) }

/-! ## Looking up interfaces -/

/-- Put an interface in front of the first one whose index is not lower. -/
def insertByIndex (i : Interface) : List Interface → List Interface
  | [] => [i]
  | j :: rest => if i.index ≤ j.index then i :: j :: rest else j :: insertByIndex i rest

/-- Order by ascending index; interfaces of one index keep their order. -/
def sortByIndex (interfaces : List Interface) : List Interface :=
  interfaces.foldr insertByIndex []

/-- All interfaces by ascending index. -/
def list (p : Platform) : Except Error (List Interface) :=
  if p.interfaces.isEmpty then .error .noInterfaces else .ok (sortByIndex p.interfaces)

/-- The refusal of an empty name. -/
def emptyName : Error := .invalidInterface "interface name cannot be empty"

/-- The first interface with the given name. -/
def byName (p : Platform) (name : String) : Except Error Interface :=
  if name.isEmpty then .error emptyName
  else
    match p.interfaces.find? fun i => i.name == name with
    | some i => .ok i
    | none => .error (.interfaceNotFound name)

/-- The first interface with the given index. -/
def byIndex (p : Platform) (index : Int) : Except Error Interface :=
  if index ≤ 0 then .error (.invalidInterfaceIndex index)
  else
    match p.interfaces.find? fun i => (i.index : Int) == index with
    | some i => .ok i
    | none => .error (.interfaceNotFound s!"index {index}")

/-- The interface that a text denotes: by index if the text is a signed 64-bit numeral, by name
otherwise. -/
def resolve (p : Platform) (target : String) : Except Error Interface :=
  match Numeral.int64? target.toList with
  | some index => p.byIndex index
  | none => p.byName target

/-- The interface that a text denotes, if frames can be captured on it now. -/
def validate (p : Platform) (target : String) : Except Error Interface := do
  if target.isEmpty then throw emptyName
  let i ← p.resolve target
  if !i.isUp then throw (.interfaceDown i.name)
  p.privileges
  if !i.supportsCapture then throw (.noCaptureSupport i.name)
  return i

/-- The default capture target of the host. -/
def selectDefault (p : Platform) : Except Error Interface := do
  let interfaces ← p.list
  Interface.selectDefault interfaces

/-- The host for diagnostics. -/
def text (p : Platform) : String :=
  "InterfaceManager \x7b platform: " ++ Quoted.encode p.name ++ " \x7d"

end Platform

end LinkTap
