/-
The bounded queue between a session and its consumers.

Each session has a queue of its own. Queues are told apart by their generation, and a receiver
belongs to the generation that was current when it was taken: it never sees packets of another one.
A queue that has been replaced accepts nothing more; a receiver of it gets what is left and then
learns that it is disconnected.

Beneath a queue is a bounded channel, of which five laws are taken for granted. A channel can always
be created, with any capacity but zero. To send without waiting succeeds exactly if fewer packets
are waiting than its capacity (`Queue.push?`). Packets come out in the order in which they went in,
and each of them comes to one receiver only (`Queue.pop?`). A receiver finds the channel
disconnected exactly if no packet is waiting and the last handle for sending is gone
(`Reception.ofChannel`). And to send fails for want of a receiver only if none is left, while the
engine keeps one itself.
-/
import LinkTap.Bytes
import LinkTap.Timestamp

set_option autoImplicit false

namespace LinkTap

/-- A packet lifted out of the ring. -/
structure Packet where
  time : Timestamp
  interfaceIndex : Nat
  data : Bytes
  deriving DecidableEq, Repr

/-- Packets that wait for a consumer, oldest first. -/
structure Queue where
  generation : Nat
  capacity : Nat
  packets : List Packet := []
  deriving DecidableEq, Repr

namespace Queue

/-- The queue with one more packet at its end, unless it is full. -/
def push? (q : Queue) (p : Packet) : Option Queue :=
  if q.packets.length < q.capacity then some { q with packets := q.packets ++ [p] } else none

/-- The oldest packet and the queue without it. -/
def pop? (q : Queue) : Option (Packet × Queue) :=
  match q.packets with
  | [] => none
  | p :: rest => some (p, { q with packets := rest })

end Queue

/-- A handle for receiving from the queue of one generation. -/
structure Receiver where
  generation : Nat
  deriving DecidableEq, Repr

/-- What one attempt to receive brings. -/
inductive Reception where
  | packet (p : Packet)
  /-- Nothing is waiting now. -/
  | empty
  /-- Nothing is waiting and nothing will come. -/
  | disconnected
  deriving DecidableEq, Repr

end LinkTap
