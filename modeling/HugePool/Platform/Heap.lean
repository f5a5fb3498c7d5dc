import HugePool.Memory
import HugePool.Platform.Basic

/-!
# Heap memory as huge pages

Where no huge pages are set aside, ordinary memory that starts at a multiple of 2 MiB takes their
place.  A virtual address then stands for its own physical address.  No device could use such
memory; it serves to run pools on any machine.

A length is refused when it cannot be rounded up to whole pages within half of the space of
addresses, when it is zero, and when the heap has no room for it.
-/

namespace HugePool

/-- Ordinary memory that is handed out from one end on.  Once all of it was given back, it is handed
out from the start again. -/
structure Heap where
  /-- The bytes that were handed out, counted from the start of the heap. -/
  taken : Nat := 0
  /-- The number of pieces that were not given back. -/
  pieces : Nat := 0
  deriving DecidableEq, Repr

namespace Heap

/-- The first address of the heap, a multiple of the size of a huge page. -/
def start : UInt64 := 0x7F0000000000

/-- The bytes of the heap, which ends where the addresses of a process do. -/
def room : Nat := 1099511627776

/-- The largest length that can be rounded up to whole pages. -/
def largestLen : UInt64 := 9223372036852678656

/-- The bytes of the whole pages that a length needs. -/
def wholePages (len : UInt64) : Nat :=
  (len.toNat + (hugePageSize.toNat - 1)) / hugePageSize.toNat * hugePageSize.toNat

/-- Why a length is refused, if it is. -/
def refusal? (heap : Heap) (len : UInt64) : Option PagesError :=
  if largestLen < len then some (.sizeOverflow len)
  else if len = 0 ∨ room < heap.taken + wholePages len then some (.heapExhausted len)
  else none

/-- Hands out pages. -/
def mapPages (len : UInt64) : StateM Heap (Except PagesError VirtAddr) := fun heap =>
  match heap.refusal? len with
  | some cause => (.error cause, heap)
  | none => (.ok ⟨start + UInt64.ofNat heap.taken⟩, ⟨heap.taken + wholePages len, heap.pieces + 1⟩)

/-- The heap after one piece was given back. -/
def release (heap : Heap) : Heap :=
  if heap.pieces ≤ 1 then {} else { heap with pieces := heap.pieces - 1 }

/-- Takes pages back.  A length with which none can have been handed out is refused. -/
def unmapPages (len : UInt64) : StateM Heap (Option ReleaseFault) := fun heap =>
  if largestLen < len then (some (.impossible (.sizeOverflow len)), heap)
  else (none, heap.release)

/-- There is working memory for a table of that many bytes. -/
def canReserve (bytes : Nat) : Bool := bytes < room

/-- The platform of heap memory, without mappers. -/
def platform : Platform Heap where
  pagesLayout := .bare "HeapPages"
  resolverLayout := .bare "IdentityResolver"
  mapPages len := do return { answer := ← mapPages len }
  unmapPages _ len := unmapPages len
  translate va := return .ok ⟨va.word⟩
  mapBus _ _ phys _ := return .ok phys.toBus
  unmapBus _ _ _ _ := return .ok ()
  reserve bytes := return canReserve bytes

end Heap

/-! ### Leases -/

/-- Pages taken from the heap. -/
structure HeapLease where
  start : VirtAddr
  len : UInt64
  contents : Memory

/-- The lease starts at a multiple of the size of a huge page. -/
def HeapLease.isAligned (lease : HeapLease) : Bool := lease.start.offsetIn .huge == 0

/-- The first base page of the lease holds zeros. -/
def HeapLease.startsZeroed (lease : HeapLease) : Bool :=
  (lease.contents.load 0 PageSize.base.bytes.toNat).all (· == 0)

/-- A heap and the pages taken from it, numbered in the order in which they were taken. -/
structure HeapLedger where
  heap : Heap := {}
  /-- The leases, without those that were given back. -/
  leases : Array (Option HeapLease) := #[]

namespace HeapLedger

/-- Takes pages.  The answer is the number of the lease and the lease. -/
def take (ledger : HeapLedger) (len : UInt64) :
    Except PagesError (Nat × HeapLease) × HeapLedger :=
  match Heap.mapPages len ledger.heap with
  | (.error cause, heap) => (.error cause, { ledger with heap := heap })
  | (.ok start, heap) =>
    let lease : HeapLease := ⟨start, len, Memory.zero⟩
    (.ok (ledger.leases.size, lease), ⟨heap, ledger.leases.push (some lease)⟩)

/-- Gives pages back by the number of their lease; `none` when there is no such lease any more. -/
def giveBack (ledger : HeapLedger) (number : Nat) : Option HeapLedger :=
  match ledger.leases[number]? with
  | some (some _) => some ⟨ledger.heap.release, ledger.leases.setIfInBounds number none⟩
  | _ => none

end HeapLedger

end HugePool
