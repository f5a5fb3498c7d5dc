import HugePool.Context
import HugePool.Soak.Error
import HugePool.Soak.Options

/-!
# The soak check

The soak check works a batch of pools of many shapes, one of them empty and to be refused:

1. it makes all pools;
2. it takes every buffer of every pool, and asks for one more;
3. it writes a pattern into a few buffers and reads it back;
4. it translates bytes of every buffer to the bus and back;
5. it returns the buffers in reverse, and counts them;
6. it destroys the pools in reverse.

When something is wrong, the pools made so far are destroyed in the order in which they were made.
-/

namespace HugePool.Soak

variable {σ : Type}

/-- The count and the size of the buffers of a pool. -/
structure Shape where
  count : UInt64
  size : UInt64
  deriving DecidableEq, Repr

/-- The pools of a batch. -/
def batch : List Shape :=
  [⟨1, 1074240⟩, ⟨3200, 16384⟩, ⟨512, 8192⟩, ⟨511, 32768⟩, ⟨63, 4096⟩, ⟨7, 4096⟩, ⟨7, 8192⟩,
    ⟨96, 8192⟩, ⟨0, 64⟩, ⟨15, 16384⟩, ⟨15, 4096⟩, ⟨3, 32768⟩, ⟨15, 1024⟩, ⟨127, 1024⟩, ⟨7, 1024⟩,
    ⟨5, 1024⟩, ⟨5, 4096⟩, ⟨63, 8192⟩, ⟨63, 8192⟩, ⟨1, 8⟩]

/-- The buffers that a pattern is written into, by the numbers of their pools and their own. -/
def patterned : List (Nat × Nat) := [(2, 3), (12, 0)]

/-- A pool of the batch, unless it is the empty one, and the buffers taken from it. -/
structure Bay where
  pool : Option Pool
  buffers : List Buffer := []

/-- Logs a record of the check itself. -/
def report {ε : Type} (level : LogLevel) (message : String) : Action σ ε Unit :=
  Action.note ⟨level, "dma_pool_check", message⟩

/-! ### Making and destroying the batch -/

/-- The name of pool number `i`. -/
def poolName (i : Nat) : String := "pool-" ++ toString i

/-- Makes pool number `i`.  A pool without buffers is refused, as it should be. -/
def makeBay (c : Context σ) (o : Options) (i : Nat) (shape : Shape) : Action σ CheckError Bay :=
  fun s =>
    let config : Config :=
      { name := poolName i, device := ⟨o.device, 0⟩, bufferSize := shape.size,
        bufferCount := shape.count, alignment := o.alignment }
    let t := (c.createPool config).run s
    match t.outcome with
    | .error .zeroBuffers =>
      if shape.count = 0 then
        let record : LogRecord :=
          ⟨.warn, "dma_pool_check", config.name ++ ": empty pool rejected as expected"⟩
        ⟨t.events ++ [.log record], t.state, .ok ⟨none, []⟩⟩
      else ⟨t.events, t.state, .error (.create config.name .zeroBuffers)⟩
    | outcome =>
      let made : Outcome CheckError Pool := outcome.mapError (.create config.name)
      ⟨t.events, t.state, made.bind fun pool => .ok ⟨some pool, []⟩⟩

/-- Destroys the pools of bays, in order. -/
def dropBays (c : Context σ) (bays : List Bay) : Action σ Empty Unit :=
  Action.cleanAll (Pool.release c.platform) (bays.filterMap (·.pool))

/-- Makes the rest of a batch. -/
def makeBays (c : Context σ) (o : Options) (made : List Bay) :
    List Shape → Action σ CheckError (List Bay)
  | [] => return made
  | shape :: rest => do
    let bay ← (makeBay c o made.length shape).onFailure (dropBays c made)
    makeBays c o (made ++ [bay]) rest

/-! ### Work on one pool -/

/-- Takes `count` buffers; `taken` are those taken before, the last one first. -/
def takeBuffers (name : String) (taken : List Buffer) : Nat → Action Pool CheckError (List Buffer)
  | 0 => return taken.reverse
  | count + 1 => do
    let buffer ← Pool.allocate.mapError (.buffer name taken.length)
    takeBuffers name (buffer :: taken) count

/-- A pool hands out nothing more. -/
def expectExhausted (name : String) : Action Pool CheckError Unit := fun pool =>
  let t := Pool.allocate.run pool
  match t.outcome with
  | .ok _ => ⟨t.events, t.state, .error (.mismatch name .allocatedPastCount)⟩
  | .error _ => ⟨t.events, t.state, .ok ()⟩
  | .panic cause => ⟨t.events, t.state, .panic cause⟩
  | .abort => ⟨t.events, t.state, .abort⟩

/-- Takes every buffer of a pool, and asks for one more. -/
def drain (name : String) (count : Nat) : Action Pool CheckError (List Buffer) := do
  let taken ← takeBuffers name [] count
  expectExhausted name
  return taken

/-- The byte of the pattern at a place. -/
def patternByte (i : Nat) : UInt8 := UInt8.ofNat i ^^^ 0x5A

/-- Writes the pattern into a buffer and reads it back. -/
def checkPattern (buffer : Buffer) : Action Pool CheckError Unit := do
  let len := buffer.size.toNat
  Action.ask (modify (·.store buffer.virt len patternByte))
  let pool ← Action.ask get
  let found := pool.load buffer.virt len
  match (found.zipIdx.find? fun (byte, i) => byte != patternByte i) with
  | some (_, i) => Action.fail (.mismatch pool.name (.patternBroken buffer.virt i))
  | none => report .info (pool.name ++ ": pattern ok in " ++ buffer.virt.tagged)

/-- Translates the byte at `offset` of a buffer to the bus and back, and the `count - 1` bytes that
follow at distances of `stride`. -/
def checkBytes (pool : Pool) (buffer : Buffer) (stride offset : UInt64) :
    Nat → Outcome CheckError Unit
  | 0 => return
  | count + 1 => do
    let va ← buffer.virt.add offset
    let bus ← .ofOption (pool.toBus? va) (.mismatch pool.name (.noBusAddress va))
    if pool.toVirtual? bus = some va then checkBytes pool buffer stride (offset + stride) count
    else .error (.mismatch pool.name (.notInverse bus va))

/-- The number of places at distances of `stride` in a buffer of `size` bytes. -/
def visits (size stride : UInt64) : Nat := (size.toNat + (stride.toNat - 1)) / stride.toNat

/-- Translates bytes of buffers to the bus and back. -/
def checkBuffers (pool : Pool) (stride : UInt64) : List Buffer → Outcome CheckError Unit
  | [] => return
  | buffer :: rest => do
    checkBytes pool buffer stride 0 (visits buffer.size stride)
    checkBuffers pool stride rest

/-- Translates bytes of every buffer to the bus and back. -/
def checkAddresses (stride : UInt64) (buffers : List Buffer) : Action Pool CheckError Unit := do
  let pool ← Action.ask get
  Action.ofOutcome (checkBuffers pool stride buffers)
  report .info
    (pool.name ++ ": " ++ toString buffers.length ++ " buffer(s) translate both ways")

/-- Returns buffers; the first of the list is number `count - 1`. -/
def returnBuffers (name : String) : List Buffer → Action Pool CheckError Unit
  | [] => return
  | buffer :: rest => do
    (Pool.giveBack buffer.virt).mapError (.buffer name rest.length)
    returnBuffers name rest

/-- Returns the buffers of a pool in reverse, and counts them. -/
def putBack (buffers : List Buffer) : Action Pool CheckError Unit := do
  let pool ← Action.ask get
  returnBuffers pool.name buffers.reverse
  let pool ← Action.ask get
  if pool.available = pool.geometry.bufferCount.toNat then return
  else Action.fail (.mismatch pool.name .buffersMissing)

/-! ### Work on the batch -/

/-- Runs an action on the pool of a bay, if it has one. -/
def Bay.withPool {α : Type} (a : List Buffer → Action Pool CheckError α)
    (keep : α → List Buffer → List Buffer) : Action Bay CheckError Unit := fun bay =>
  match bay.pool with
  | none => ⟨[], bay, .ok ()⟩
  | some pool =>
    let t := (a bay.buffers).run pool
    let buffers := match t.outcome with
      | .ok value => keep value bay.buffers
      | _ => bay.buffers
    ⟨t.events, ⟨some t.state, buffers⟩, t.outcome.bind fun _ => .ok ()⟩

/-- Runs an action on each bay, in order. -/
def eachBay (a : Action Bay CheckError Unit) : Action (List Bay) CheckError Unit
  | [] => ⟨[], [], .ok ()⟩
  | bay :: rest =>
    let t := a.run bay
    match t.outcome with
    | .ok _ =>
      let u := eachBay a rest
      ⟨t.events ++ u.events, t.state :: u.state, u.outcome⟩
    | outcome => ⟨t.events, t.state :: rest, outcome⟩

/-- Runs an action on each bay, the last one first. -/
def eachBayReversed (a : Action Bay CheckError Unit) : Action (List Bay) CheckError Unit :=
  fun bays =>
    let t := (eachBay a).run bays.reverse
    { t with state := t.state.reverse }

/-- Checks the pattern in buffer number `index` of bay number `number`, if there is one. -/
def checkPatternAt (number index : Nat) : Action (List Bay) CheckError Unit := fun bays =>
  match bays[number]? with
  | none => ⟨[], bays, .ok ()⟩
  | some bay =>
    let check (buffers : List Buffer) : Action Pool CheckError Unit :=
      match buffers[index]? with
      | some buffer => checkPattern buffer
      | none => return
    let t := (Bay.withPool check fun _ buffers => buffers).run bay
    ⟨t.events, bays.set number t.state, t.outcome⟩

/-- Takes every buffer of every pool. -/
def drainAll : Action (List Bay) CheckError Unit :=
  eachBay (Bay.withPool (fun _ => do
    let pool ← Action.ask get
    drain pool.name pool.geometry.bufferCount.toNat) fun taken _ => taken)

/-- Checks the pattern in a few buffers. -/
def checkPatterns : Action (List Bay) CheckError Unit :=
  patterned.forM fun (number, index) => checkPatternAt number index

/-- Translates bytes of every buffer of every pool. -/
def translateAll (stride : UInt64) : Action (List Bay) CheckError Unit :=
  eachBay (Bay.withPool (checkAddresses stride) fun _ buffers => buffers)

/-- Returns the buffers of every pool, those of the last pool first. -/
def putBackAll : Action (List Bay) CheckError Unit :=
  eachBayReversed (Bay.withPool putBack fun _ buffers => buffers)

/-- Works all pools of a batch. -/
def exercise (o : Options) : Action (List Bay) CheckError Unit := do
  drainAll
  checkPatterns
  translateAll (max o.stride 1)
  putBackAll

/-- Runs one round. -/
def round (c : Context σ) (o : Options) (number : Nat) : Action σ CheckError Unit := do
  report .info ("round " ++ toString number ++ "/" ++ toString o.rounds.toNat)
  let bays ← makeBays c o [] batch
  let (_, bays) ← Action.within bays (exercise o) (dropBays c)
  Action.ofCleanup (dropBays c bays.reverse)

/-- Runs the rounds from `number` on. -/
def roundsFrom (c : Context σ) (o : Options) (number : Nat) : Nat → Action σ CheckError Unit
  | 0 => return
  | count + 1 => do
    round c o number
    roundsFrom c o (number + 1) count

/-- Runs the soak check. -/
def check (c : Context σ) (o : Options) : Action σ CheckError Unit :=
  roundsFrom c o 1 o.rounds.toNat

end HugePool.Soak
