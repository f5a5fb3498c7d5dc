import HugePool.Address.Basic
import HugePool.Device
import HugePool.Error.System

/-!
# Errors

Every operation that a caller can see fail has its own type of causes:

* `TranslateError`: a virtual address has no known physical address;
* `PagesError`: huge pages were not handed out;
* `BusError`: a device's mapper refused or misplaced a page;
* `StackError`: the stack of free buffers is empty or full;
* `SpanError`: a span of memory is not one that a transfer may use;
* `CreateError`: a pool could not be made.

Each type has the `kind` of an error, its `message`, the messages of the errors it was `causedBy`,
outermost first, and its `layout` where it has one: the text of a refusal of the operating system is
the host's own, so an error that wraps one has no description of its own.
-/

namespace HugePool

/-! ### Physical addresses -/

/-- A virtual address could not be translated. -/
inductive TranslateError where
  | unavailable (cause : SystemError)
  | unreadable (va : VirtAddr) (cause : SystemError)
  /-- The page of the address is not in memory. -/
  | notPresent (va : VirtAddr)
  /-- The entry does not tell the frame. -/
  | frameHidden (va : VirtAddr)
  /-- What the address translates to does not fit in the space of addresses. -/
  | outOfRange (va : VirtAddr)
  deriving DecidableEq, Repr

namespace TranslateError

/-- The kind of an error. -/
def kind : TranslateError → String
  | .unavailable _ => "Unavailable"
  | .unreadable _ _ => "Read"
  | .notPresent _ => "NotPresent"
  | .frameHidden _ => "FrameHidden"
  | .outOfRange _ => "OutOfRange"

/-- The message of an error. -/
def message : TranslateError → String
  | .unavailable cause => "page map unavailable: " ++ cause.message
  | .unreadable va cause => "page map entry for " ++ va.text ++ " unreadable: " ++ cause.message
  | .notPresent va => va.text ++ " is not backed by a present page"
  | .frameHidden va =>
    "frame number for " ++ va.text ++ " is hidden (CAP_SYS_ADMIN required)"
  | .outOfRange va => va.text ++ " translates outside the physical address space"

/-- The messages of the errors behind an error. -/
def causedBy : TranslateError → List String
  | .unavailable cause => [cause.message]
  | .unreadable _ cause => [cause.message]
  | _ => []

/-- The description of an error. -/
def layout? : TranslateError → Option Text.Layout
  | .unavailable _ => none
  | .unreadable _ _ => none
  | .notPresent va => some (.applied "NotPresent" [va.layout])
  | .frameHidden va => some (.applied "FrameHidden" [va.layout])
  | .outOfRange va => some (.applied "OutOfRange" [va.layout])

end TranslateError

/-! ### Huge pages -/

/-- Huge pages were not handed out. -/
inductive PagesError where
  | sizeOverflow (len : UInt64)
  | mapRefused (len : UInt64) (cause : SystemError)
  | heapExhausted (len : UInt64)
  deriving DecidableEq, Repr

namespace PagesError

/-- The kind of an error. -/
def kind : PagesError → String
  | .sizeOverflow _ => "SizeOverflow"
  | .mapRefused _ _ => "Map"
  | .heapExhausted _ => "Heap"

/-- The message of an error. -/
def message : PagesError → String
  | .sizeOverflow len => "huge page request of " ++ Text.hex len.toNat ++ " bytes overflows"
  | .mapRefused len cause =>
    "mmap of " ++ Text.hex len.toNat ++ " bytes of huge pages failed: " ++ cause.message
  | .heapExhausted len => "heap allocation of " ++ Text.hex len.toNat ++ " bytes failed"

/-- The messages of the errors behind an error. -/
def causedBy : PagesError → List String
  | .mapRefused _ cause => [cause.message]
  | _ => []

/-- The description of an error. -/
def layout? : PagesError → Option Text.Layout
  | .sizeOverflow len => some (.applied "SizeOverflow" [.word len])
  | .mapRefused _ _ => none
  | .heapExhausted len => some (.applied "Heap" [.word len])

end PagesError

/-! ### Bus mappings -/

/-- A page could not be made visible to a device, or not be hidden from it again. -/
inductive BusError where
  | mapRefused (device : Device) (phys : PhysAddr) (status : Int)
  /-- The page would reach past the end of the bus. -/
  | overflow (device : Device) (phys : PhysAddr) (bus : BusAddr)
  | unmapRefused (device : Device) (bus : BusAddr) (status : Int)
  deriving DecidableEq, Repr

namespace BusError

/-- The kind of an error. -/
def kind : BusError → String
  | .mapRefused _ _ _ => "Map"
  | .overflow _ _ _ => "Overflow"
  | .unmapRefused _ _ _ => "Unmap"

/-- The message of an error. -/
def message : BusError → String
  | .mapRefused device phys status =>
    "device " ++ device.text ++ " refused to map " ++ phys.text
      ++ " (status " ++ toString status ++ ")"
  | .overflow device phys bus =>
    "device " ++ device.text ++ " mapped " ++ phys.text ++ " at " ++ bus.text
      ++ ", past the end of the bus address space"
  | .unmapRefused device bus status =>
    "device " ++ device.text ++ " refused to unmap " ++ bus.text
      ++ " (status " ++ toString status ++ ")"

/-- The description of an error. -/
def layout : BusError → Text.Layout
  | .mapRefused device phys status =>
    .record "Map"
      [("device", device.layout), ("phys", phys.layout), ("status", .bare (toString status))] true
  | .overflow device phys bus =>
    .record "Overflow" [("device", device.layout), ("phys", phys.layout), ("bus", bus.layout)] true
  | .unmapRefused device bus status =>
    .record "Unmap"
      [("device", device.layout), ("bus", bus.layout), ("status", .bare (toString status))] true

end BusError

/-! ### Free buffers -/

/-- A buffer could not be taken or given back. -/
inductive StackError where
  | exhausted
  /-- Every buffer is free already. -/
  | full
  /-- More buffers are out than the pool has. -/
  | corrupted (head capacity : Nat)
  deriving DecidableEq, Repr

namespace StackError

/-- The kind of an error. -/
def kind : StackError → String
  | .exhausted => "Exhausted"
  | .full => "Full"
  | .corrupted _ _ => "Corrupted"

/-- The message of an error. -/
def message : StackError → String
  | .exhausted => "pool exhausted"
  | .full => "free list is already full"
  | .corrupted head capacity =>
    "free list head " ++ toString head ++ " exceeds capacity " ++ toString capacity

/-- The description of an error. -/
def layout : StackError → Text.Layout
  | .exhausted => .bare "Exhausted"
  | .full => .bare "Full"
  | .corrupted head capacity =>
    .record "Corrupted" [("head", .nat head), ("capacity", .nat capacity)] true

end StackError

/-! ### Spans -/

/-- A span of memory does not lie in one huge page of a pool. -/
structure SpanError where
  start : UInt64
  len : UInt64
  deriving DecidableEq, Repr

namespace SpanError

/-- The kind of an error. -/
def kind (_ : SpanError) : String := "MapBuffer"

/-- The message of an error. -/
def message (e : SpanError) : String :=
  Text.hex e.start.toNat ++ " (+" ++ Text.hex e.len.toNat
    ++ ") is not inside a single huge page of the pool"

/-- The description of an error. -/
def layout (e : SpanError) : Text.Layout :=
  .record "MapBufferError" [("addr", .word e.start), ("len", .word e.len)] true

end SpanError

/-! ### Creation -/

/-- A pool could not be made. -/
inductive CreateError where
  | alignmentNotPowerOfTwo (alignment : UInt64)
  | alignmentTooLarge (alignment : UInt64)
  | zeroBufferSize
  | bufferTooLarge (size : UInt64)
  | zeroBuffers
  | nameTooLong (bytes : Nat)
  /-- The pool would not fit in the space of addresses. -/
  | geometryOverflow
  /-- There is no memory for the tables of the pool. -/
  | outOfMemory
  | hugePages (cause : PagesError)
  | translate (cause : TranslateError)
  /-- The new pool did not hand out its buffer. -/
  | firstAllocation (cause : StackError)
  deriving DecidableEq, Repr

namespace CreateError

/-- The kind of an error, with the kind of what it wraps. -/
def kind : CreateError → String
  | .alignmentNotPowerOfTwo _ => "AlignmentNotPowerOfTwo"
  | .alignmentTooLarge _ => "AlignmentTooLarge"
  | .zeroBufferSize => "ZeroBufferSize"
  | .bufferTooLarge _ => "BufferTooLarge"
  | .zeroBuffers => "ZeroBuffers"
  | .nameTooLong _ => "NameTooLong"
  | .geometryOverflow => "GeometryOverflow"
  | .outOfMemory => "OutOfMemory"
  | .hugePages cause => "HugePages/" ++ cause.kind
  | .translate cause => "Translate/" ++ cause.kind
  | .firstAllocation cause => "FirstAllocation/" ++ cause.kind

/-- The message of an error. -/
def message : CreateError → String
  | .alignmentNotPowerOfTwo alignment =>
    "alignment " ++ toString alignment.toNat ++ " is not a power of two"
  | .alignmentTooLarge alignment =>
    "alignment " ++ toString alignment.toNat ++ " exceeds " ++ toString maxAlignment.toNat
  | .zeroBufferSize => "buffer size must not be zero"
  | .bufferTooLarge size =>
    "buffer size " ++ Text.hex size.toNat ++ " exceeds the huge page size"
  | .zeroBuffers => "pool must hold at least one buffer"
  | .nameTooLong bytes =>
    "pool name is " ++ toString bytes ++ " bytes long, at most " ++ toString maxNameBytes
      ++ " allowed"
  | .geometryOverflow => "pool geometry overflows"
  | .outOfMemory => "out of memory"
  | .hugePages cause => cause.message
  | .translate cause => "address translation failed: " ++ cause.message
  | .firstAllocation cause => "fresh pool refused its first allocation: " ++ cause.message

/-- The messages of the errors behind an error.  An error about huge pages speaks with the words of
what it wraps, so that one does not count as behind it. -/
def causedBy : CreateError → List String
  | .hugePages cause => cause.causedBy
  | .translate cause => cause.message :: cause.causedBy
  | .firstAllocation cause => [cause.message]
  | _ => []

/-- The description of an error. -/
def layout? : CreateError → Option Text.Layout
  | .alignmentNotPowerOfTwo alignment =>
    some (.applied "AlignmentNotPowerOfTwo" [.word alignment])
  | .alignmentTooLarge alignment => some (.applied "AlignmentTooLarge" [.word alignment])
  | .zeroBufferSize => some (.bare "ZeroBufferSize")
  | .bufferTooLarge size => some (.applied "BufferTooLarge" [.word size])
  | .zeroBuffers => some (.bare "ZeroBuffers")
  | .nameTooLong bytes => some (.applied "NameTooLong" [.nat bytes])
  | .geometryOverflow => some (.bare "GeometryOverflow")
  | .outOfMemory => some (.bare "OutOfMemory")
  | .hugePages cause => cause.layout?.map fun inner => .applied "HugePages" [inner]
  | .translate cause => cause.layout?.map fun inner => .applied "Translate" [inner]
  | .firstAllocation cause => some (.applied "FirstAllocation" [cause.layout])

end CreateError

end HugePool
