/-
The consumer of a session's packets.

The consumer takes packets one at a time and decodes the front of each. It comes to an end when its
limit is reached, when the queue is disconnected, or when it is told to stop, which it looks for
before each attempt to receive. The limit is looked at after a packet was taken, so a consumer that
is not told to stop takes at least the first packet that comes.
-/
import LinkTap.Frame.Dissection
import LinkTap.Session.Queue

set_option autoImplicit false

namespace LinkTap

/-- What is logged about one packet. -/
structure PacketTrace where
  interfaceIndex : Nat
  /-- Captured octets, before the packet is cut for decoding. -/
  length : Nat
  layers : Nat
  summary : String
  deriving DecidableEq, Repr

/-- Decode the first `snapLength` octets of a packet and describe it. -/
def Packet.trace (p : Packet) (snapLength : Nat) : PacketTrace :=
  let layers := Frame.dissect (p.data.take snapLength)
  { interfaceIndex := p.interfaceIndex
    length := p.data.length
    layers := layers.layerCount
    summary := layers.text }

/-- A consumer and what it has taken so far. -/
structure Consumer where
  snapLength : Nat
  /-- After how many packets to end. -/
  limit : Option Nat
  /-- The packets taken, oldest first. -/
  taken : List Packet := []
  finished : Bool := false
  deriving DecidableEq, Repr

namespace Consumer

/-- How many packets were taken. The number is counted in 64 bits and agrees with that count as long
as it has not come to 2^64. -/
def processed (c : Consumer) : Nat := c.taken.length

/-- What was logged. -/
def traces (c : Consumer) : List PacketTrace := c.taken.map fun p => p.trace c.snapLength

/-- Whether the limit is reached with `n` packets. -/
def reached (c : Consumer) (n : Nat) : Bool :=
  match c.limit with
  | some limit => decide (limit ≤ n)
  | none => false

/-- Take a packet. -/
def take (c : Consumer) (p : Packet) : Consumer :=
  { c with taken := c.taken ++ [p], finished := c.reached (c.processed + 1) }

/-- React to an attempt to receive. -/
def handle (c : Consumer) (r : Reception) : Consumer :=
  match r with
  | .packet p => c.take p
  | .empty => c
  | .disconnected => { c with finished := true }

/-- Come to an end if told to. -/
def observe (c : Consumer) (shutdown : Bool) : Consumer :=
  if shutdown then { c with finished := true } else c

/-- Consume what is left in a queue that nothing more comes to. The answer is the consumer at its
end and the packets that it left. -/
def exhaust (c : Consumer) (shutdown : Bool) : List Packet → Consumer × List Packet
  | [] => ((c.observe shutdown).handle .disconnected, [])
  | p :: rest =>
    let c := c.observe shutdown
    if c.finished then (c, p :: rest) else exhaust (c.take p) shutdown rest

end Consumer

end LinkTap
