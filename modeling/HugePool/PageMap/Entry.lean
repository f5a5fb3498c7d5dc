import HugePool.Outcome

/-!
# Entries of the page map

The operating system tells about each page of a process in one word: the number of the frame that
holds the page in the low 55 bits, and flags at bits 55, 56, 61, 62 and 63.  The four bits between
are not used; writing a field keeps them, as it keeps every other field.
-/

namespace HugePool

/-- A truth that an entry tells about a page. -/
inductive PageFlag where
  /-- The page was written to since the mark was last cleared. -/
  | softDirty
  /-- The page is mapped once. -/
  | exclusive
  /-- The page belongs to a file or is shared. -/
  | fileOrShared
  /-- The page is swapped out. -/
  | swapped
  /-- The page is in memory. -/
  | present
  deriving DecidableEq, Repr

/-- The bit of a flag. -/
def PageFlag.bit : PageFlag → UInt64
  | .softDirty => 55
  | .exclusive => 56
  | .fileOrShared => 61
  | .swapped => 62
  | .present => 63

/-- One entry of the page map. -/
@[ext]
structure PageEntry where
  /-- The entry as a word. -/
  bits : UInt64 := 0
  deriving DecidableEq, Repr

namespace PageEntry

/-- The bits of the frame number. -/
def frameMask : UInt64 := 0x7FFFFFFFFFFFFF

/-- The number of the frame. -/
def frame (e : PageEntry) : UInt64 := e.bits &&& frameMask

/-- The entry tells that a flag holds. -/
def has (e : PageEntry) (flag : PageFlag) : Bool :=
  (e.bits >>> flag.bit) &&& 1 == 1

/-- The entry with a flag set or cleared. -/
def withFlag (e : PageEntry) (flag : PageFlag) (value : Bool) : PageEntry :=
  let mask : UInt64 := 1 <<< flag.bit
  ⟨if value then e.bits ||| mask else e.bits &&& ~~~mask⟩

/-- The entry with another frame number, or `none` when the number has more than 55 bits. -/
def withFrame? (e : PageEntry) (frame : UInt64) : Option PageEntry :=
  if frame ≤ frameMask then some ⟨(e.bits &&& ~~~frameMask) ||| frame⟩ else none

/-- The entry with another frame number, which has to have at most 55 bits. -/
def withFrame {ε : Type} (e : PageEntry) (frame : UInt64) : Outcome ε PageEntry :=
  .orPanic (e.withFrame? frame) .frameOutOfBounds

/-- The description of an entry. -/
def layout (e : PageEntry) : Text.Layout :=
  .record "PagemapEntry"
    [("pfn", .word e.frame), ("soft_dirty", .bool (e.has .softDirty)),
      ("exclusive", .bool (e.has .exclusive)), ("file_or_shared", .bool (e.has .fileOrShared)),
      ("swapped", .bool (e.has .swapped)), ("present", .bool (e.has .present))] true

end PageEntry

end HugePool
