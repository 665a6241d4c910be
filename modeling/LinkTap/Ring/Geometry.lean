/-
The shape of a ring: how many blocks of which size.

A shape is checked before anything is acquired. Blocks are whole pages, there is at least one, and
together they fit the address space. How large a page is depends on the host.
-/
import LinkTap.Error
import LinkTap.Ring.Region

set_option autoImplicit false

namespace LinkTap.Ring

/-- Octets of a memory page on a host that does not say otherwise. -/
def pageSize : Nat := 4096

/-- What is wrong with a shape. -/
inductive GeometryFault where
  | blockSize (blockSize page : Nat)
  | noBlocks
  | tooLarge (blockSize blockCount : Nat)
  deriving DecidableEq, Repr

/-- The reason in words. -/
def GeometryFault.message : GeometryFault → String
  | blockSize size page =>
    s!"block size {size} must be a positive multiple of the page size ({page})"
  | noBlocks => "block count must be greater than zero"
  | tooLarge size count => s!"{count} blocks of {size} bytes overflow the address space"

/-- The first fault of a shape, if it has one. -/
def geometryFault? (blockSize blockCount : Nat) (page : Nat := pageSize) : Option GeometryFault :=
  if blockSize = 0 ∨ blockSize % page ≠ 0 then some (.blockSize blockSize page)
  else if blockCount = 0 then some .noBlocks
  else if addressSpace ≤ blockSize * blockCount then some (.tooLarge blockSize blockCount)
  else none

/-- Refuse a shape that has a fault. -/
def checkGeometry (blockSize blockCount : Nat) (page : Nat := pageSize) : Except Error Unit :=
  match geometryFault? blockSize blockCount page with
  | some fault => .error (.invalidRingConfig fault.message)
  | none => .ok ()

end LinkTap.Ring
