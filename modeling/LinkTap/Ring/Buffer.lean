/-
The consumer's side of a block ring.

The consumer looks at one block at a time, the one at its cursor. While the producer owns that block
there is nothing to do. Once the consumer owns it, its records are walked, the block is given back
by clearing its status word, and the cursor moves on, wrapping around at the end. Giving back does
not depend on how the walk ended, so a malformed block cannot stall the ring.

A released ring keeps its geometry and its cursor and refuses further processing.
-/
import LinkTap.Ring.Block
import LinkTap.Ring.Geometry

set_option autoImplicit false

namespace LinkTap

/-- A ring of blocks and the position of its consumer. -/
structure Ring where
  region : Region
  blockSize : Nat
  blockCount : Nat
  /-- The block that is looked at next. -/
  cursor : Nat
  /-- Whether the ring was released. -/
  closed : Bool

namespace Ring

/-- A ring over the whole blocks of a region, with the cursor on the first one. -/
def create (region : Region) (blockSize blockCount : Nat) (page : Nat := pageSize) :
    Except Error Ring := do
  checkGeometry blockSize blockCount page
  if region.size < blockSize * blockCount then
    throw (.invalidRingConfig
      (s!"region of {region.size} bytes cannot hold {blockCount} blocks"
        ++ s!" of {blockSize} bytes"))
  return { region, blockSize, blockCount, cursor := 0, closed := false }

/-- Release the ring. Releasing it again changes nothing. -/
def close (r : Ring) : Ring := { r with closed := true }

/-- Address of the status word of a block. -/
def statusAddress (r : Ring) (index : Nat) : Nat := index * r.blockSize + statusOffset

/-- The block with the given index. -/
def block (r : Ring) (index : Nat) : Block := ⟨r.region, index * r.blockSize, r.blockSize⟩

/-- Whether the consumer owns the block with the given index. -/
def ready (r : Ring) (index : Nat) : Bool :=
  match r.region.loadStatus (r.statusAddress index) with
  | some status => isUserOwned status
  | none => false

/-- How many blocks the consumer owns; none once the ring is released. -/
def readyCount (r : Ring) : Nat :=
  if r.closed then 0 else (List.range r.blockCount).countP r.ready

/-- The share of blocks that the consumer owns. -/
def utilization (r : Ring) : Float :=
  if r.closed then 0 else r.readyCount.toUInt64.toFloat / r.blockCount.toUInt64.toFloat

/-! ## Processing -/

/-- What one look at the block at the cursor brings. -/
structure Step where
  /-- The ring afterwards. -/
  ring : Ring
  /-- The records handed on, in order. -/
  records : List Record
  /-- The number of records, nothing if the producer owns the block, or why the walk failed. -/
  result : Except Error (Option Nat)

/-- The error that a record fault is reported as. -/
def malformed (fault : RecordFault) : Error := .ringRecord fault.message

/-- Give back the block at the cursor and move on. -/
def release (r : Ring) : Option Ring :=
  (r.region.storeStatus (r.statusAddress r.cursor) kernelOwned).map fun region =>
    { r with region, cursor := (r.cursor + 1) % r.blockCount }

/-- Walk the block at the cursor, which the consumer owns, and give it back. -/
def consume (r : Ring) : Step :=
  let walk := (r.block r.cursor).walk
  match r.release with
  | none => ⟨r, walk.records, .error (malformed .blockHeaderOutside)⟩
  | some ring =>
    match walk.fault with
    | some fault => ⟨ring, walk.records, .error (malformed fault)⟩
    | none => ⟨ring, walk.records, .ok (some walk.records.length)⟩

/-- Look at the block at the cursor, and consume it if it is the consumer's. -/
def process (r : Ring) : Step :=
  if r.closed then ⟨r, [], .error .ringClosed⟩
  else
    match r.region.loadStatus (r.statusAddress r.cursor) with
    | none => ⟨r, [], .error (malformed .blockHeaderOutside)⟩
    | some status => if isUserOwned status then r.consume else ⟨r, [], .ok none⟩

/-- The ring for diagnostics. -/
def text (r : Ring) : String :=
  s!"RingBuffer \x7b block_size: {r.blockSize}, block_count: {r.blockCount}"
    ++ s!", closed: {r.closed} \x7d"

end Ring

end LinkTap
