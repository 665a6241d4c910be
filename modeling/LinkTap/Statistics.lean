/-
The numbers of a capture session.

Counters are exact: each packet that a session takes from its ring is counted once, as received or
as dropped. Statistics are the counters together with the utilisation of the ring at some moment.
Percentages are taken by one rule over any number system, so the double that is reported and the
exact ratio it stands for come from the same definition.
-/
import LinkTap.Text.FixedPlaces
import LinkTap.Timestamp

set_option autoImplicit false

namespace LinkTap

/-! ## Percentages -/

/-- A count as a double; counts are 64-bit words, and the nearest double is taken. -/
def countToFloat (n : Nat) : Float := n.toUInt64.toFloat

/-- `part` of `whole` in per cent, in the number system that `ofCount` maps counts into. Nothing has
a share of nothing, so the answer is zero when `whole` is. -/
def percentage {α : Type} [Div α] [Mul α] (ofCount : Nat → α) (part whole : Nat) : α :=
  if whole = 0 then ofCount 0 else ofCount part / ofCount whole * ofCount 100

/-! ## Counters -/

/-- What a session counts. Natural numbers stand for counters of 64 bits, and the two agree as long
as no count has come to 2^64. -/
structure Counters where
  /-- Packets put into the output queue. -/
  received : Nat := 0
  /-- Packets that found the output queue full. -/
  dropped : Nat := 0
  /-- Octets of the packets received. -/
  bytes : Nat := 0
  /-- Failed waits and malformed blocks. -/
  errors : Nat := 0
  /-- Capture time of the packet received last. -/
  last : Option Timestamp := none
  deriving DecidableEq, Repr, Inhabited

namespace Counters

/-- Count a packet of `size` octets as received. -/
def countPacket (c : Counters) (size : Nat) (time : Timestamp) : Counters :=
  { c with received := c.received + 1, bytes := c.bytes + size, last := some time }

/-- Count a packet as dropped. -/
def countDrop (c : Counters) : Counters := { c with dropped := c.dropped + 1 }

/-- Count an error. -/
def countError (c : Counters) : Counters := { c with errors := c.errors + 1 }

/-- All packets seen. -/
def total (c : Counters) : Nat := c.received + c.dropped

/-- Packets dropped for each hundred received, as it is reported. -/
def dropRate (c : Counters) : Float := percentage countToFloat c.dropped c.received

/-- Packets dropped for each hundred received, exactly. -/
def exactDropRate (c : Counters) : Rat := percentage (fun n => (n : Rat)) c.dropped c.received

end Counters

/-! ## Statistics -/

/-- Counters and the share of the ring that waits for its consumer. -/
structure Statistics extends Counters where
  utilization : Float := 0

namespace Statistics

/-- Counters at a moment when the ring was used to the given degree. -/
def ofCounters (c : Counters) (utilization : Float) : Statistics := { c with utilization }

/-- Whether more packets are dropped than `threshold` per cent. -/
def hasSignificantDrops (s : Statistics) (threshold : Float) : Bool :=
  decide (threshold < s.dropRate)

/-- The time of the last packet in words. -/
def lastText (s : Statistics) : String := (s.last.bind Timestamp.text?).getD "never"

/-- The lines of a summary. -/
def lines (s : Statistics) : List String :=
  [ s!"Received: {s.received} packets ({s.bytes} bytes)",
    s!"Dropped: {s.dropped} packets ({FixedPlaces.render 2 s.dropRate}%)",
    s!"Errors: {s.errors}",
    s!"Ring utilization: {FixedPlaces.render 1 (s.utilization * 100)}%",
    s!"Last packet: {s.lastText}" ]

/-- The summary as one text. -/
def text (s : Statistics) : String := String.intercalate "\n" s.lines

end Statistics

end LinkTap
