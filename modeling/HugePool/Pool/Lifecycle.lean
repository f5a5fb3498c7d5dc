import HugePool.Pool.Buffers

/-!
# Making and destroying pools

`Pool.create` computes the geometry, maps a region, enters its pages in a table, and finds the
physical address of the first buffer.  Whatever was taken is given back, in the opposite order, when
one of these steps fails or panics.

`Pool.release` unmaps the pages from the device and gives the region back, also when unmapping
panics.
-/

namespace HugePool.Pool

variable {σ ε : Type}

/-- Destroys a pool. -/
def release (p : Platform σ) (pool : Pool) : Action σ Empty Unit :=
  Action.andThen
    (Action.note
      (Notice.destroying pool.name pool.available pool.geometry.bufferCount pool.region.mappedLen))
    (Action.andThen (pool.table.release p) (pool.region.release p))

/-- The address of buffer number `i`, for buffers `stride` bytes apart. -/
def bufferAt (start : VirtAddr) (stride : UInt64) (i : Nat) : Outcome ε VirtAddr :=
  (Word.mul (UInt64.ofNat i) stride).bind start.add

/-- Appends the addresses of the next `count` buffers. -/
def bufferAddrs (start : VirtAddr) (stride : UInt64) (placed : Array VirtAddr) :
    Nat → Outcome ε (Array VirtAddr)
  | 0 => return placed
  | count + 1 => do
    let va ← bufferAt start stride placed.size
    bufferAddrs start stride (placed.push va) count

/-- The physical address of the first buffer.  Failing to find it is worth a warning. -/
def resolveBase (p : Platform σ) (name : String) (start : VirtAddr) :
    Action σ CreateError PhysAddr := fun s =>
  let t := (p.resolve start).run s
  match t.outcome with
  | .error cause =>
    ⟨t.events ++ [.log (Notice.baseUnresolved name start cause)], t.state,
      .error (.translate cause)⟩
  | outcome => ⟨t.events, t.state, outcome.mapError .translate⟩

/-- Makes a pool of a region and its table. -/
def assemble (p : Platform σ) (config : Config) (geometry : Geometry) (payload : UInt64)
    (region : Region) (table : PageTable) : Action σ CreateError Pool := do
  let start ← Action.ofOutcome region.start
  let phys ← resolveBase p config.name start
  p.requestMemory geometry.bufferCount.toNat FreeStack.slotBytes
  let slots ← Action.ofOutcome
    (bufferAddrs start geometry.bufferSize #[] geometry.bufferCount.toNat)
  Action.note
    (Notice.created config.name config.device geometry.bufferCount geometry.bufferSize
      geometry.alignment geometry.hugePages start phys)
  let buffers ← Action.ofOutcome (Range.ofLength start payload)
  return ⟨config.name, config.device, geometry, buffers, phys, ⟨slots, 0⟩, table, region⟩

/-- Enters the pages of a region in a table and makes a pool of both. -/
def furnish (p : Platform σ) (mapper : Option MapperId) (config : Config) (geometry : Geometry)
    (payload : UInt64) (region : Region) : Action σ CreateError Pool := do
  let table ← PageTable.build p mapper config.device region.mapping region.pageCount
  (assemble p config geometry payload region table).onFailure (table.release p)

/-- Makes a pool. -/
def create (p : Platform σ) (mapper : Option MapperId) (config : Config) :
    Action σ CreateError Pool := do
  let geometry ← Action.ofOutcome config.geometry
  let payload ← Action.ofOutcome geometry.payloadLen
  let region ← (Region.allocate p payload geometry.headerOffset).mapError .hugePages
  (furnish p mapper config geometry payload region).onFailure (region.release p)

/-- Returns the only buffer of a pool and destroys the pool, even when the buffer is not taken
back. -/
def giveBackSingle (p : Platform σ) (pool : Pool) (buffer : Buffer) : Action σ StackError Unit :=
  fun s =>
    let t := (giveBack buffer.virt).run pool
    Action.cleanUp ⟨t.events, s, t.outcome⟩ (t.state.release p)

end HugePool.Pool
