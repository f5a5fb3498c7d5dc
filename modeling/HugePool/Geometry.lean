import HugePool.Outcome

/-!
# Geometry of a pool

A pool is asked for with a `Config`, and its `Geometry` says where the buffers go.  The mapping that
holds the pool is a run of huge pages; it starts with a header, and the buffers follow one after the
other, `bufferSize` bytes apart.

* If the buffers, rounded up to the alignment, fit next to a header of 4 KiB in one huge page, they
  stay that close together.
* Otherwise their distance grows to a power of two, and the header to at least that distance, so
  that the distance divides both the header and the huge page and no buffer crosses from one page
  into the next.

`Geometry.compute` checks a request in a fixed order and fails with the first rule that it breaks.
-/

namespace HugePool

/-- Where the buffers of a pool go. -/
structure Geometry where
  /-- The distance between buffers, which is also what each may use. -/
  bufferSize : UInt64
  bufferCount : UInt64
  /-- The alignment asked for. -/
  alignment : UInt64
  /-- The bytes between the start of the mapping and the first buffer. -/
  headerOffset : UInt64
  hugePages : UInt64
  deriving DecidableEq, Repr

namespace Geometry

variable {ε : Type}

/-- Buffers at a distance of `stride` fit next to the small header in one huge page. -/
def fitsOnePage (stride count : UInt64) : Bool :=
  match (Word.mul? stride count).bind (Word.add? · headerSize) with
  | some total => total ≤ hugePageSize
  | none => false

/-- The distance between buffers and the length of the header, for buffers of `aligned` bytes. -/
def spacing (aligned count : UInt64) : Outcome ε (UInt64 × UInt64) :=
  if fitsOnePage aligned count then
    .ok (aligned, headerSize)
  -- a power of two divides the huge page, so that no buffer crosses from one into the next
  else do
    let stride ← Word.nextPowerOfTwo aligned
    return (stride, max stride headerSize)

/-- The geometry for a size, a count and an alignment that break no rule. -/
def place (size count alignment : UInt64) : Outcome CreateError Geometry := do
  let aligned ← .ofOption (← Word.alignUp size alignment) .geometryOverflow
  let (stride, header) ← spacing aligned count
  let total ← .ofOption ((Word.mul? stride count).bind (Word.add? · header)) .geometryOverflow
  let len ← .ofOption (← Word.alignUp total hugePageSize) .geometryOverflow
  return ⟨stride, count, alignment, header, len / hugePageSize⟩

/-- The geometry for buffers of `size` bytes, `count` of them, each at a multiple of `alignment`. -/
def compute (size count alignment : UInt64) : Outcome CreateError Geometry :=
  if ¬ Word.IsPowerOfTwo alignment then .error (.alignmentNotPowerOfTwo alignment)
  else if maxAlignment < alignment then .error (.alignmentTooLarge alignment)
  else if size = 0 then .error .zeroBufferSize
  else if hugePageSize < size then .error (.bufferTooLarge size)
  else if count = 0 then .error .zeroBuffers
  else place size count alignment

/-- The bytes of all buffers. -/
def payloadLen (g : Geometry) : Outcome ε UInt64 := Word.mul g.bufferSize g.bufferCount

/-- The bytes of the whole mapping. -/
def mappedLen (g : Geometry) : Outcome ε UInt64 := Word.mul g.hugePages hugePageSize

/-- The description of a geometry. -/
def layout (g : Geometry) : Text.Layout :=
  .record "PoolGeometry"
    [("buffer_size", .word g.bufferSize), ("buffer_count", .word g.bufferCount),
      ("alignment", .word g.alignment), ("header_offset", .word g.headerOffset),
      ("huge_pages", .word g.hugePages)] true

end Geometry

/-! ### Requests -/

/-- What a pool is asked for with. -/
structure Config where
  name : String
  device : Device := {}
  /-- The least size of a buffer. -/
  bufferSize : UInt64
  bufferCount : UInt64
  alignment : UInt64 := defaultAlignment
  deriving DecidableEq, Repr

namespace Config

/-- The geometry of the pool asked for.  A name that is too long is found before any other fault. -/
def geometry (c : Config) : Outcome CreateError Geometry :=
  if maxNameBytes < c.name.utf8ByteSize then .error (.nameTooLong c.name.utf8ByteSize)
  else Geometry.compute c.bufferSize c.bufferCount c.alignment

/-- The description of a request. -/
def layout (c : Config) : Text.Layout :=
  .record "PoolConfig"
    [("name", .quoted c.name), ("device", c.device.layout), ("buffer_size", .word c.bufferSize),
      ("buffer_count", .word c.bufferCount), ("alignment", .word c.alignment)] true

end Config

end HugePool
