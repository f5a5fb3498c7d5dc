import HugePool.Pool.Lifecycle
import HugePool.Pool.Spans

/-!
# Contexts

A `Context` is what pools are made with: a platform, and the mapper through which the next pools are
to be made visible to their devices.  A pool keeps the mapper that it was made with, so changing the
mapper of a context changes nothing for the pools that exist.
-/

namespace HugePool

/-- A platform and the mapper for the next pools. -/
structure Context (σ : Type) where
  platform : Platform σ
  /-- The mapper, if devices need one. -/
  mapper : Option MapperId := none

namespace Context

variable {σ : Type} (c : Context σ)

/-- The context with another mapper. -/
def setMapper (mapper : MapperId) : Context σ := { c with mapper := some mapper }

/-- The context without a mapper. -/
def clearMapper : Context σ := { c with mapper := none }

/-- Makes a pool. -/
def createPool (config : Config) : Action σ CreateError Pool :=
  Pool.create c.platform c.mapper config

/-- Makes a pool of one buffer of at least `size` bytes, and takes the buffer. -/
def singleBuffer (name : String) (device : Device) (size : UInt64) :
    Action σ CreateError (Buffer × Pool) := do
  let pool ← c.createPool
    { name := name, device := device, bufferSize := size, bufferCount := 1 }
  Action.within pool (Pool.allocate.mapError .firstAllocation) (Pool.release c.platform)

/-- The physical address of a virtual address. -/
def toPhysical (va : VirtAddr) : Action σ TranslateError PhysAddr := c.platform.resolve va

/-- The bus address of a virtual address for a device without a mapper. -/
def toBus (va : VirtAddr) : Action σ TranslateError BusAddr := c.platform.resolveToBus va

/-- The description of a context. -/
def layout : Text.Layout :=
  .record "DmaContext"
    [("backend", c.platform.pagesLayout), ("resolver", c.platform.resolverLayout),
      ("bus_mapper", .bool c.mapper.isSome)] true

end Context

end HugePool
