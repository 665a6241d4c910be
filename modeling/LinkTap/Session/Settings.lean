/-
What a capture session is started with.
-/
import LinkTap.Ring.Geometry

set_option autoImplicit false

namespace LinkTap

/-- The settings of one capture session. -/
structure SessionSettings where
  /-- Octets of a ring block. -/
  blockSize : Nat := 32 * 1024
  blockCount : Nat := 1024
  /-- Packets that may wait for their consumer. -/
  queueCapacity : Nat := 1000
  /-- Whether to receive frames that are addressed to others. -/
  promiscuous : Bool := false
  deriving DecidableEq, Repr

namespace SessionSettings

/-- Refuse settings that no session can have. -/
def validate (s : SessionSettings) (page : Nat := Ring.pageSize) : Except Error Unit := do
  Ring.checkGeometry s.blockSize s.blockCount page
  if s.queueCapacity = 0 then
    throw (.invalidRingConfig "queue capacity must be greater than zero")

/-- Octets of the ring, at most the largest 64-bit number. -/
def ringSize (s : SessionSettings) : Nat := min (s.blockSize * s.blockCount) (addressSpace - 1)

end SessionSettings

end LinkTap
