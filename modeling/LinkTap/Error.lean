/-
What can go wrong, by cause.

Each constructor names one cause and carries what its message needs. The wording lives in `message`
alone, so that the rest of the library speaks of causes and never of texts. Two predicates sort the
causes by the phase in which they arise: while a session is being set up, or while a capture target
is being looked up and checked.
-/
import LinkTap.Text.Quoted

set_option autoImplicit false

namespace LinkTap

/-- Why an operation was refused. -/
inductive Error where
  /-- The operating system reported `text`. -/
  | io (text : String)
  /-- The host has no network interface. -/
  | noInterfaces
  /-- No interface is called `target`. -/
  | interfaceNotFound (target : String)
  /-- A target that cannot name an interface. -/
  | invalidInterface (reason : String)
  /-- Interface indexes are positive. -/
  | invalidInterfaceIndex (index : Int)
  /-- The interface exists and is administratively down. -/
  | interfaceDown (name : String)
  /-- The caller may not open capture sockets. -/
  | insufficientPrivileges (reason : String)
  /-- The link layer of the interface delivers no frames. -/
  | noCaptureSupport (name : String)
  /-- A session is already active. -/
  | engineRunning
  /-- No session is active. -/
  | engineNotStarted
  /-- The capture socket could not be created. -/
  | socketCreation (reason : String)
  /-- The kernel refused the ring. -/
  | ringSetup (reason : String)
  /-- The socket could not be bound to its interface. -/
  | interfaceBind (reason : String)
  /-- A ring geometry that no ring can have. -/
  | invalidRingConfig (reason : String)
  /-- The ring memory could not be mapped. -/
  | ringMap (reason : String)
  /-- The ring was released. -/
  | ringClosed
  /-- A block holds a record that contradicts the ring layout. -/
  | ringRecord (reason : String)
  /-- The host has no capture facility. -/
  | platformNotSupported (platform : String)
  /-- A setting is outside its range. -/
  | invalidConfig (name reason : String)
  deriving DecidableEq, Repr, Inhabited

namespace Error

/-- The text shown to a user. -/
def message : Error → String
  | io text => s!"I/O error: {text}"
  | noInterfaces => "No network interfaces found"
  | interfaceNotFound target => s!"Interface '{target}' not found"
  | invalidInterface reason => s!"Invalid interface: {reason}"
  | invalidInterfaceIndex index => s!"Invalid interface index: {index}"
  | interfaceDown name => s!"Interface '{name}' is down"
  | insufficientPrivileges reason => s!"Insufficient privileges: {reason}"
  | noCaptureSupport name => s!"Interface '{name}' does not support packet capture"
  | engineRunning => "Capture engine is already running"
  | engineNotStarted => "Capture engine is not started"
  | socketCreation reason => s!"Failed to create capture socket: {reason}"
  | ringSetup reason => s!"Failed to set up capture ring: {reason}"
  | interfaceBind reason => s!"Failed to bind capture socket: {reason}"
  | invalidRingConfig reason => s!"Invalid ring configuration: {reason}"
  | ringMap reason => s!"Failed to map capture ring: {reason}"
  | ringClosed => "Ring buffer is closed"
  | ringRecord reason => s!"Malformed ring record: {reason}"
  | platformNotSupported platform => s!"Packet capture is not supported on {platform}"
  | invalidConfig name reason => s!"Invalid configuration '{name}': {reason}"

/-- The short name of the cause. -/
def label : Error → String
  | io _ => "Io"
  | noInterfaces => "NoInterfacesFound"
  | interfaceNotFound _ => "InterfaceNotFound"
  | invalidInterface _ => "InvalidInterface"
  | invalidInterfaceIndex _ => "InvalidInterfaceIndex"
  | interfaceDown _ => "InterfaceDown"
  | insufficientPrivileges _ => "InsufficientPrivileges"
  | noCaptureSupport _ => "NoCaptureSupport"
  | engineRunning => "EngineRunning"
  | engineNotStarted => "EngineNotStarted"
  | socketCreation _ => "SocketCreation"
  | ringSetup _ => "RingSetup"
  | interfaceBind _ => "InterfaceBind"
  | invalidRingConfig _ => "InvalidRingConfig"
  | ringMap _ => "RingMap"
  | ringClosed => "RingBufferClosed"
  | ringRecord _ => "RingRecord"
  | platformNotSupported _ => "PlatformNotSupported"
  | invalidConfig _ _ => "InvalidConfig"

/-- The cause and what it carries, for diagnostics: the label, then the quoted details. -/
def diagnostic (e : Error) : String :=
  let detail (text : String) : String := e.label ++ "(" ++ Quoted.encode text ++ ")"
  match e with
  | io text => e.label ++ "(Custom \x7b kind: Other, error: " ++ Quoted.encode text ++ " \x7d)"
  | noInterfaces | engineRunning | engineNotStarted | ringClosed => e.label
  | invalidInterfaceIndex index => s!"{e.label}({index})"
  | interfaceNotFound text | invalidInterface text | interfaceDown text
  | insufficientPrivileges text | noCaptureSupport text | socketCreation text | ringSetup text
  | interfaceBind text | invalidRingConfig text | ringMap text | ringRecord text
  | platformNotSupported text => detail text
  | invalidConfig name reason =>
    e.label ++ " \x7b name: " ++ Quoted.encode name ++ ", reason: " ++ Quoted.encode reason
      ++ " \x7d"

/-- Raised while a capture session is being built. -/
def isSetup : Error → Bool
  | socketCreation _ | ringSetup _ | interfaceBind _ | invalidRingConfig _ | ringMap _
  | platformNotSupported _ => true
  | _ => false

/-- Raised while a capture target is being resolved or checked. -/
def isValidation : Error → Bool
  | noInterfaces | interfaceNotFound _ | invalidInterface _ | invalidInterfaceIndex _
  | interfaceDown _ | insufficientPrivileges _ | noCaptureSupport _ => true
  | _ => false

end Error

end LinkTap
