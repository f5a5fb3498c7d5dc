import HugePool.Pool.Basic

/-!
# Commands of a session

A session works with one context and with pools that go by names.  Its commands ask for operations
on the context, and on a pool.  An address in a command is a number, or is counted from something
that the pool has.
-/

namespace HugePool

/-- Something that an address can be counted from. -/
inductive Anchor where
  | base
  | physical
  | page
  | bus
  | buffer
  | bufferBus
  deriving DecidableEq, Repr

/-- An address in a command. -/
inductive Reference where
  | absolute (address : UInt64)
  /-- A distance from number `index` of something. -/
  | counted (anchor : Anchor) (index : Nat) (distance : Int)
  deriving DecidableEq, Repr

/-- A pool of a session, with the buffers that the session took from it. -/
structure Holding where
  pool : Pool
  /-- The buffers taken so far, also those that were returned since. -/
  taken : Array Buffer := #[]

namespace Holding

/-- The start of the pool's first huge page. -/
def origin? (h : Holding) : Option VirtAddr := h.pool.hugePages.head?.map (·.virt)

/-- What an anchor stands for. -/
def anchor? (h : Holding) (index : Nat) : Anchor → Option UInt64
  | .base => some h.pool.baseVirtual.word
  | .physical => some h.pool.basePhysical.word
  | .page => h.pool.hugePages[index]?.map (·.virt.word)
  | .bus => h.pool.hugePages[index]?.map (·.bus.word)
  | .buffer => h.taken[index]?.map (·.virt.word)
  | .bufferBus => h.taken[index]?.map (·.bus.word)

/-- The address that a reference stands for.  Distances wrap around. -/
def address? (h : Holding) : Reference → Option UInt64
  | .absolute address => some address
  | .counted anchor index distance =>
    (h.anchor? index anchor).map (· + UInt64.ofInt distance)

end Holding

/-- An operation on a pool. -/
inductive PoolCommand where
  | info
  | allocate
  | allocateMany (count : Nat)
  | giveBack (place : Reference)
  /-- Return a buffer that was taken, and destroy the pool. -/
  | giveBackSingle (index : Nat)
  | destroy
  | available
  /-- Describe the pool, on one line or over several. -/
  | describe (indented : Bool)
  | describeBuffer (index : Nat)
  | describePage (index : Nat)
  | pages
  | toBus (place : Reference)
  | toVirtual (place : Reference)
  | indexOf (place : Reference)
  | mapSpan (place : Reference) (len : UInt64) (direction : Direction)
  | unmapSpan (place : Reference) (len : UInt64) (direction : Direction)
  | fill (index : Nat) (byte : UInt8)
  | write (index offset : Nat) (bytes : List UInt8)
  | read (index offset count : Nat)
  /-- Let threads take and return buffers, then put the free buffers in order. -/
  | contend (threads rounds : Nat)

/-- An operation of a session. -/
inductive Command where
  | setMapper (mapper : MapperId)
  | clearMapper
  | hasMapper
  | describe
  | toPhysical (va : VirtAddr)
  | toBus (va : VirtAddr)
  | create (name : String) (config : Config)
  /-- Make a pool of one buffer and take the buffer. -/
  | single (name poolName : String) (device : Device) (size : UInt64)
  | onPool (name : String) (command : PoolCommand)

end HugePool
