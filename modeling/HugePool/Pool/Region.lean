import HugePool.Memory
import HugePool.Platform.Basic

/-!
# Regions

A region is a run of huge pages that a pool holds.  Its first word records the length of the whole
mapping, so that the length with which the region is given back is the one that is read there; the
rest of the header is not used, and the buffers follow after it.
-/

namespace HugePool

/-- A run of huge pages. -/
structure Region where
  mapping : VirtAddr
  /-- The bytes in front of the first buffer. -/
  headerOffset : UInt64
  contents : Memory

namespace Region

variable {σ ε : Type}

/-- The length of the mapping, as its first word has it. -/
def mappedLen (r : Region) : UInt64 := r.contents.word 0

/-- The number of huge pages. -/
def pageCount (r : Region) : UInt64 := r.mappedLen / hugePageSize

/-- The address of the first buffer. -/
def start (r : Region) : Outcome ε VirtAddr := r.mapping.add r.headerOffset

/-- The length of the mapping for `size` bytes behind a header. -/
def lengthFor (size header : UInt64) : Outcome PagesError UInt64 := do
  let total ← .ofOption (Word.add? size header) (.sizeOverflow size)
  .ofOption (← Word.alignUp total hugePageSize) (.sizeOverflow size)

/-- Maps a region for `size` bytes behind a header, and writes its length into its first word. -/
def allocate (p : Platform σ) (size header : UInt64) : Action σ PagesError Region := do
  Action.ofOutcome (.require (wordBytes ≤ header) .headerTooShort)
  let len ← Action.ofOutcome (lengthFor size header)
  let mapping ← p.requestPages len
  Action.ofOutcome (.require (mapping.offsetIn .huge = 0) .misalignedPages)
  Action.note (Notice.mapped (len / hugePageSize) mapping)
  return ⟨mapping, header, Memory.zero.storeWord 0 len⟩

/-- Gives the pages of a region back. -/
def release (p : Platform σ) (r : Region) : Action σ Empty Unit := do
  Action.note (Notice.releasing r.mappedLen r.mapping)
  p.returnPages r.mapping r.mappedLen

end Region

end HugePool
