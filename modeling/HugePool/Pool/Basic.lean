import HugePool.Geometry
import HugePool.Pool.FreeStack
import HugePool.Pool.PageTable
import HugePool.Pool.Region

/-!
# Pools

A `Pool` is a number of equally sized buffers in huge pages.  It owns the region that holds them,
the table that tells where the device sees each page, and the stack of buffers that are free.

A `Buffer` is plain data: it names a piece of the pool's memory, but it neither holds the pool nor
gives itself back.
-/

namespace HugePool

/-- A buffer that a pool handed out. -/
structure Buffer where
  /-- Where the process sees the buffer. -/
  virt : VirtAddr
  /-- Where the device sees the buffer. -/
  bus : BusAddr
  /-- The bytes that may be used. -/
  size : UInt64
  deriving DecidableEq, Repr

/-- The description of a buffer. -/
def Buffer.layout (b : Buffer) : Text.Layout :=
  .record "DmaBuffer" [("virt", b.virt.layout), ("bus", b.bus.layout), ("size", .word b.size)] true

/-- Equally sized buffers in huge pages. -/
structure Pool where
  name : String
  device : Device
  /-- Where the buffers go. -/
  geometry : Geometry
  buffers : Range .virtual
  /-- The physical address of the first buffer, found when the pool was made. -/
  basePhysical : PhysAddr
  free : FreeStack
  table : PageTable
  region : Region

namespace Pool

/-- The address of the first buffer. -/
def baseVirtual (pool : Pool) : VirtAddr := pool.buffers.start

/-- The huge pages, in the order of their addresses. -/
def hugePages (pool : Pool) : List PageRecord := pool.table.records

/-- The number of buffers that are free. -/
def available (pool : Pool) : Nat := pool.free.available

/-- The bus address of a virtual address of the pool. -/
def toBus? (pool : Pool) (va : VirtAddr) : Option BusAddr := pool.table.toBus? va

/-- The virtual address of a bus address of the pool. -/
def toVirtual? (pool : Pool) (bus : BusAddr) : Option VirtAddr := pool.table.toVirtual? bus

/-- The position of the buffer that an address lies in.  Asking for an address outside the buffers
is a broken promise. -/
def indexOf {ε : Type} (pool : Pool) (va : VirtAddr) : Outcome ε UInt64 :=
  match pool.buffers.offsetOf? va with
  | some offset => .ok (offset / pool.geometry.bufferSize)
  | none => .panic (.notABuffer va pool.name)

/-- The place of an address in the memory of the pool. -/
def placeOf (pool : Pool) (va : VirtAddr) : Nat := (va.word - pool.region.mapping.word).toNat

/-- Stores `len` bytes at an address of the pool. -/
def store (pool : Pool) (va : VirtAddr) (len : Nat) (f : Nat → UInt8) : Pool :=
  let region := pool.region
  { pool with region := { region with contents := region.contents.store (pool.placeOf va) len f } }

/-- The `len` bytes at an address of the pool. -/
def load (pool : Pool) (va : VirtAddr) (len : Nat) : List UInt8 :=
  pool.region.contents.load (pool.placeOf va) len

/-- The description of a pool. -/
def layout (pool : Pool) : Text.Layout :=
  .record "DmaPool"
    [("name", .quoted pool.name), ("device", pool.device.layout),
      ("geometry", pool.geometry.layout), ("buffers", pool.buffers.layout),
      ("base_physical", pool.basePhysical.layout)] false

end Pool

end HugePool
