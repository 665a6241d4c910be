/-
Network devices as a kernel describes them in files.

The table of traffic by device says which devices there are, and the attribute files of each say the
rest. What a device does not say takes the value that makes it least attractive for capture: no
index, no flags, no traffic. Internet addresses are not among the attributes.
-/
import LinkTap.Kernel.Attributes

set_option autoImplicit false

namespace LinkTap.Kernel

/-! ## The table of devices -/

/-- Where the table of traffic by device is. -/
def deviceTable : String := "/proc/net/dev"

/-- The name at the front of a row; a header line has none. -/
def rowName? (row : List Char) : Option String :=
  let (name, rest) := row.span (· ≠ ':')
  if rest.isEmpty then none else some (String.ofList (Line.trim name))

/-- The devices of a table, in the order of its rows. -/
def deviceNames (table : String) : List String :=
  (Line.splitOn '\n' table.toList).filterMap rowName?

/-! ## Attributes beyond traffic -/

/-- The attribute files that describe a device. -/
def attributeNames : List String :=
  ["ifindex", "mtu", "flags", "operstate", "address"]
    ++ ["rx_bytes", "rx_packets", "rx_errors", "tx_bytes", "tx_packets", "tx_errors"].map
      ("statistics/" ++ ·)

/-- The flag word of a device, in hexadecimal behind `0x`. -/
def parseFlagWord (content : List Char) : Option Nat :=
  match Line.trim content with
  | '0' :: 'x' :: digits => Numeral.ofDigits? 16 digits
  | _ => none

/-- The flags in a flag word. Whether the device is running is not among them. -/
def flagsOfWord (word : Nat) (running : Bool) : InterfaceFlags :=
  { up := word.testBit 0
    running := running
    loopback := word.testBit 3
    broadcast := word.testBit 1
    pointToPoint := word.testBit 4
    multicast := word.testBit 12 }

namespace Description

/-- The text of an attribute file without the blanks around it. -/
def attributeText (k : Description) (name field : String) : String :=
  let text := (k.file? (attributePath name field)).bind fun content =>
    String.fromUTF8? ⟨content.toArray⟩
  String.ofList (Line.trim (text.getD "").toList)

/-- Whether a device is running. A device whose driver reports no state is taken to be. -/
def isRunning (k : Description) (name : String) : Bool :=
  let state := k.attributeText name "operstate"
  state == "up" || state == "unknown"

/-- A device as an interface. -/
def interface (k : Description) (name : String) : Interface :=
  { name
    index := (k.readAttribute name "ifindex").2.getD 0
    mtu := (k.mtu name).2.getD 0
    flags := flagsOfWord ((parseFlagWord (k.attributeText name "flags").toList).getD 0)
      (k.isRunning name)
    mac := (MacAddress.parse (k.attributeText name "address")).toOption
    counters := (k.counters name).2 }

end Description

end LinkTap.Kernel
