/-
A capture source on a packet socket.

Opening goes through fixed steps: create the socket, select the ring version, request the ring, bind
to the interface, optionally ask for all frames, map the ring memory, and lay a ring over it. The
ring is requested with exactly the geometry of the settings, and what cannot be expressed in the
kernel's 32-bit fields is refused before the first step. When a step fails, everything acquired
before it is released in the opposite order: the memory is unmapped, then the socket is closed.

Closing an open source does the same, once; later closing and dropping find nothing left to release.
-/
import LinkTap.Interface
import LinkTap.Kernel.Call
import LinkTap.Ring.Buffer
import LinkTap.Session.Settings

set_option autoImplicit false

namespace LinkTap.Kernel

/-! ## Privileges -/

namespace Description

/-- Create a packet socket for a moment, to find out whether the caller may. -/
def checkPrivileges (k : Description) : List Call × Except Error Unit :=
  match k.socket with
  | none => ([socketCall, .close], .ok ())
  | some e =>
    if e.isPermission then
      ([socketCall],
        .error (.insufficientPrivileges "raw packet capture requires root or CAP_NET_RAW"))
    else ([socketCall], .error (.io e.message))

end Description

/-! ## Opening -/

/-- A ring in the terms of the kernel: four 32-bit numbers and the octets they add up to. -/
structure RingRequest where
  blockSize : Nat
  blockCount : Nat
  frameCount : Nat
  length : Nat
  deriving DecidableEq, Repr

/-- The largest number in a 32-bit field. -/
def maxWord32 : Nat := UInt32.size - 1

/-- The request for the ring of the given settings. -/
def RingRequest.ofSettings (s : SessionSettings) : Except Error RingRequest :=
  let length := s.blockSize * s.blockCount
  let frameCount := length / Ring.frameSize
  if maxWord32 < s.blockSize then .error (.invalidRingConfig "block size exceeds 4 GiB")
  else if maxWord32 < s.blockCount then .error (.invalidRingConfig "block count exceeds u32")
  else if addressSpace ≤ length then .error (.invalidRingConfig "ring size overflows")
  else if maxWord32 < frameCount then
    .error (.invalidRingConfig "too many frames for the kernel")
  else .ok { blockSize := s.blockSize, blockCount := s.blockCount, frameCount, length }

/-- A capture source: a mapped ring and the socket behind it. -/
structure PacketSource where
  ring : Ring
  /-- Whether the socket is open. -/
  connected : Bool

/-- Calls made so far and the outcome: either an error, or a value to go on with. -/
structure Attempt (α : Type) where
  calls : List Call
  outcome : Except Error α

namespace Attempt

/-- Go on with the value of a successful attempt; a failed one stays as it is. -/
def andThen {α β : Type} (a : Attempt α) (next : α → Attempt β) : Attempt β :=
  match a.outcome with
  | .error e => ⟨a.calls, .error e⟩
  | .ok x => ⟨a.calls ++ (next x).calls, (next x).outcome⟩

/-- Make one call. -/
def call (c : Call) (failure : Option Error) : Attempt Unit :=
  ⟨[c], match failure with
    | some e => .error e
    | none => .ok ()⟩

/-- Go on whether or not the attempt succeeded. -/
def regardless (a : Attempt Unit) : Attempt Unit := { a with outcome := .ok () }

/-- Make further calls if the attempt failed. -/
def onError {α : Type} (a : Attempt α) (cleanup : List Call) : Attempt α :=
  match a.outcome with
  | .error _ => { a with calls := a.calls ++ cleanup }
  | .ok _ => a

end Attempt

namespace Description

/-- Lay a ring over memory that was just mapped, or unmap it. -/
def layRing (k : Description) (s : SessionSettings) (request : RingRequest) : Attempt Ring :=
  Attempt.onError
    ⟨[], Ring.create (Region.zeroed request.length) s.blockSize s.blockCount k.pageSize⟩
    [.unmap request.length]

/-- Map the ring memory and lay a ring over it. -/
def mapRing (k : Description) (s : SessionSettings) (request : RingRequest) : Attempt Ring :=
  let failure : Option Error :=
    match k.mapping with
    | .mapped => none
    | .null => some (.ringMap "mmap returned a null mapping")
    | .failed e => some (.ringMap s!"mmap of {request.length} bytes: {e.message}")
  (Attempt.call (mapCall request.length) failure).andThen fun _ => k.layRing s request

/-- The steps between creating the socket and mapping its ring. -/
def configure (k : Description) (i : Interface) (s : SessionSettings) (request : RingRequest) :
    Attempt Unit :=
  let version := Attempt.call (versionCall Ring.tpacketVersion)
    (k.version.map fun e => .ringSetup s!"PACKET_VERSION(TPACKET_V3): {e.message}")
  let ring := Attempt.call
    (ringCall request.blockSize request.blockCount Ring.frameSize request.frameCount
      Ring.retireTimeoutMs)
    (k.ring.map fun e => .ringSetup s!"PACKET_RX_RING: {e.message}")
  let bind := Attempt.call (bindCall i.index)
    (k.bind.map fun e => .interfaceBind s!"{i.name} (index {i.index}): {e.message}")
  -- Without the frames of others a source is still useful, so a refusal here is not an error.
  let promiscuous : Attempt Unit :=
    if s.promiscuous then
      (Attempt.call (promiscuousCall i.index) (k.promiscuous.map fun e => .io e.message)).regardless
    else ⟨[], .ok ()⟩
  version.andThen fun _ => ring.andThen fun _ => bind.andThen fun _ => promiscuous

/-- Open a capture source on an interface. -/
def openSource (k : Description) (i : Interface) (s : SessionSettings) : Attempt PacketSource :=
  match RingRequest.ofSettings s with
  | .error e => ⟨[], .error e⟩
  | .ok request =>
    let created := Attempt.call socketCall
      (k.socket.map fun e => .socketCreation s!"socket(AF_PACKET): {e.message}")
    created.andThen fun _ =>
      let ring := (k.configure i s request).andThen fun _ => k.mapRing s request
      (ring.onError [.close]).andThen fun ring => ⟨[], .ok { ring, connected := true }⟩

end Description

/-! ## Using and releasing -/

/-- How a wait ends: whether frames are there, or why it failed. -/
abbrev WaitOutcome := Except (FailureKind × String) Bool

namespace PacketSource

/-- Release the ring, then the socket. -/
def close (p : PacketSource) : List Call × PacketSource :=
  let unmap := if p.ring.closed then [] else [Call.unmap (p.ring.blockSize * p.ring.blockCount)]
  let disconnect := if p.connected then [Call.close] else []
  (unmap ++ disconnect, { ring := p.ring.close, connected := false })

/-- Wait until frames are there. `poll` is the kernel's answer. -/
def wait (p : PacketSource) (timeoutMs : Nat) (poll : Except Errno Nat) :
    List Call × WaitOutcome :=
  if !p.connected then ([], .error (.notConnected, "capture socket closed"))
  else
    ([pollCall timeoutMs],
      match poll with
      | .ok ready => .ok (decide (0 < ready))
      | .error e => .error (e.kind, e.message))

/-- The kernel writes into the ring memory, which lives as long as the socket. -/
def write (p : PacketSource) (offset : Nat) (data : Bytes) : Option PacketSource :=
  if p.connected then
    (p.ring.region.write offset data).map fun region =>
      { p with ring := { p.ring with region } }
  else none

/-- The kernel reads the ring memory. -/
def read (p : PacketSource) (offset length : Nat) : Option Bytes :=
  if p.connected then p.ring.region.read offset length else none

/-- Look at the block at the cursor. -/
def process (p : PacketSource) : PacketSource × Ring.Step :=
  let step := p.ring.process
  ({ p with ring := step.ring }, step)

end PacketSource

end LinkTap.Kernel
