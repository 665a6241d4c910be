/-
Attributes of network devices, read from the files that the kernel keeps for each device.

A device name becomes part of a path, so a name that could lead elsewhere is refused before any file
is touched. An attribute is one decimal number, possibly between blanks; a file that cannot be read
or does not hold such a number counts as absent.
-/
import LinkTap.Interface
import LinkTap.Kernel.Call

set_option autoImplicit false

namespace LinkTap.Kernel

/-- Where the device files are. -/
def deviceDirectory : String := "/sys/class/net"

/-- The path of an attribute file. -/
def attributePath (name field : String) : String := s!"{deviceDirectory}/{name}/{field}"

/-- Whether a name is a single path component that is not hidden. -/
def isDeviceName (name : String) : Bool :=
  !name.isEmpty && !name.toList.contains '/' && name.toList.head? != some '.'

/-- Whether a path can be handed to the kernel, where a zero character would end it early. -/
def isPath (path : String) : Bool := !path.toList.contains '\x00'

/-- The number in the content of an attribute file. -/
def parseAttribute (content : Bytes) : Option Nat := do
  let text ← String.fromUTF8? ⟨content.toArray⟩
  Numeral.word64? (Line.trim text.toList)

namespace Description

/-- The content of a file. -/
def file? (k : Description) (path : String) : Option Bytes := k.files.lookup path

/-- Read one attribute of a device. -/
def readAttribute (k : Description) (name field : String) : List Call × Option Nat :=
  let path := attributePath name field
  if isDeviceName name && isPath path then ([.openFile path], (k.file? path).bind parseAttribute)
  else ([], none)

/-- The largest frame payload of a device. -/
def mtu (k : Description) (name : String) : List Call × Option Nat :=
  let (calls, value) := k.readAttribute name "mtu"
  (calls, value.filter (· < UInt32.size))

/-- A traffic counter of a device; zero when there is none. -/
def counter (k : Description) (name field : String) : List Call × Nat :=
  let (calls, value) := k.readAttribute name s!"statistics/{field}"
  (calls, value.getD 0)

/-- All traffic counters of a device. -/
def counters (k : Description) (name : String) : List Call × InterfaceCounters :=
  let rxBytes := k.counter name "rx_bytes"
  let rxPackets := k.counter name "rx_packets"
  let rxErrors := k.counter name "rx_errors"
  let txBytes := k.counter name "tx_bytes"
  let txPackets := k.counter name "tx_packets"
  let txErrors := k.counter name "tx_errors"
  ( rxBytes.1 ++ rxPackets.1 ++ rxErrors.1 ++ txBytes.1 ++ txPackets.1 ++ txErrors.1,
    { rxBytes := rxBytes.2, rxPackets := rxPackets.2, rxErrors := rxErrors.2
      txBytes := txBytes.2, txPackets := txPackets.2, txErrors := txErrors.2 } )

end Description

end LinkTap.Kernel
