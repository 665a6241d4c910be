/-
System calls as values.

A packet socket is set up, used and released by a handful of calls. Each call is a value that holds
what the kernel is told, so that what a function does to the outside world is a list of calls in the
order in which they are made, failing ones included.

A described kernel says which of these calls fail and with which number, how large its pages are,
and which attribute files of network devices exist.
-/
import LinkTap.Bytes
import LinkTap.Kernel.Errno
import LinkTap.Ring.Geometry

set_option autoImplicit false

namespace LinkTap.Kernel

/-- One system call. -/
inductive Call where
  | socket (domain type protocol : Nat)
  | setOption (level name : Nat) (value : Bytes)
  | bind (address : Bytes)
  /-- Map ring memory; `unmap` gives it back. -/
  | map (length protection flags offset : Nat)
  | unmap (length : Nat)
  /-- Close the packet socket. -/
  | close
  | poll (events : Nat) (timeoutMs : Nat)
  /-- Open an attribute file for reading. -/
  | openFile (path : String)
  deriving DecidableEq, Repr

/-- How an attempt to map ring memory ends. -/
inductive Mapping where
  | mapped
  /-- The mapping lies at the null address. -/
  | null
  | failed (errno : Errno)
  deriving DecidableEq, Repr

/-- A kernel, described by the calls that fail, its pages and the files that exist. -/
structure Description where
  socket : Option Errno := none
  version : Option Errno := none
  ring : Option Errno := none
  promiscuous : Option Errno := none
  bind : Option Errno := none
  mapping : Mapping := .mapped
  /-- Octets of a memory page. -/
  pageSize : Nat := Ring.pageSize
  files : List (String × Bytes) := []
  deriving DecidableEq, Repr

/-! ## What the calls are told -/

/-- The protocol number that stands for every protocol. -/
def everyProtocol : Nat := 3

/-- Create a raw packet socket. The protocol goes in network order into a 32-bit word. -/
def socketCall : Call := .socket 17 3 (Bytes.littleEndian (Bytes.ofNatBE 4 everyProtocol))

/-- The level of packet socket options. -/
def packetLevel : Nat := 263

/-- Select a ring version. -/
def versionCall (version : Nat) : Call := .setOption packetLevel 10 (Bytes.ofNatLE 4 version)

/-- Request a receive ring. -/
def ringCall (blockSize blockCount frameSize frameCount retireMs : Nat) : Call :=
  .setOption packetLevel 5
    ([blockSize, blockCount, frameSize, frameCount, retireMs, 0, 0].flatMap (Bytes.ofNatLE 4))

/-- Ask for frames that are addressed to others. -/
def promiscuousCall (interfaceIndex : Nat) : Call :=
  .setOption packetLevel 1
    (Bytes.ofNatLE 4 interfaceIndex ++ Bytes.ofNatLE 2 1 ++ Bytes.ofNatLE 2 0
      ++ List.replicate 8 0)

/-- Bind the socket to an interface, for every protocol. -/
def bindCall (interfaceIndex : Nat) : Call :=
  .bind (Bytes.ofNatLE 2 17 ++ Bytes.ofNatBE 2 everyProtocol ++ Bytes.ofNatLE 4 interfaceIndex
    ++ List.replicate 12 0)

/-- Map ring memory for reading and writing, shared with the kernel. -/
def mapCall (length : Nat) : Call := .map length 3 1 0

/-- The longest wait that can be asked for, in milliseconds. -/
def maxTimeoutMs : Nat := UInt32.size / 2 - 1

/-- Wait for frames or an error. -/
def pollCall (timeoutMs : Nat) : Call := .poll 9 (min timeoutMs maxTimeoutMs)

end LinkTap.Kernel
