import HugePool.Platform.Basic

/-!
# The table of huge pages

A pool keeps one `PageRecord` for each of its huge pages, in the order of their addresses: where the
process sees the page and where the device does.  Both ends of a record are ranges of one huge page,
which the type of records guarantees.

* `PageTable.build` translates every page, maps it for the device if there is a mapper, and enters
  it.  When a page fails, the pages entered before it are unmapped again.
* `PageTable.toBus?` and `PageTable.toVirtual?` look an address up: the first record that has it
  decides.
* `PageTable.release` unmaps the pages in the order of their addresses.
-/

namespace HugePool

/-- Where the process and the device see a huge page. -/
structure PageRecord where
  virt : VirtAddr
  bus : BusAddr
  /-- The page ends at an address of the process. -/
  virt_fits : virt.toNat + hugePageSize.toNat < UInt64.size
  /-- The page ends at an address of the bus. -/
  bus_fits : bus.toNat + hugePageSize.toNat < UInt64.size

namespace PageRecord

/-- The bytes that a record takes in the table. -/
def bytes : Nat := 24

/-- The addresses of the page for the process. -/
def virtRange (r : PageRecord) : Range .virtual := ⟨r.virt, hugePageSize, r.virt_fits⟩

/-- The addresses of the page for the device. -/
def busRange (r : PageRecord) : Range .bus := ⟨r.bus, hugePageSize, r.bus_fits⟩

/-- The bus address of a virtual address of the page. -/
def toBus? (r : PageRecord) (va : VirtAddr) : Option BusAddr :=
  (r.virtRange.offsetOf? va).bind r.busRange.at?

/-- The virtual address of a bus address of the page. -/
def toVirtual? (r : PageRecord) (bus : BusAddr) : Option VirtAddr :=
  (r.busRange.offsetOf? bus).bind r.virtRange.at?

/-- The description of a record. -/
def layout (r : PageRecord) : Text.Layout :=
  .record "HugePageRecord" [("virt", r.virtRange.layout), ("bus", r.bus.layout)] true

theorem toBus?_eq_some_iff {r : PageRecord} {va : VirtAddr} {bus : BusAddr} :
    r.toBus? va = some bus ↔
      va ∈ r.virtRange ∧ bus.toNat + r.virt.toNat = va.toNat + r.bus.toNat := by
  simp only [toBus?, Option.bind_eq_some_iff, Range.offsetOf?_eq_some_iff, Range.at?_eq_some_iff,
    Range.mem_iff, virtRange, busRange]
  constructor
  · rintro ⟨offset, ⟨hva, hlt⟩, hbus, -⟩
    omega
  · rintro ⟨⟨hle, hlt⟩, hbus⟩
    have hva := va.toNat_lt
    refine ⟨UInt64.ofNat (va.toNat - r.virt.toNat), ?_⟩
    rw [UInt64.toNat_ofNat_of_lt' (by omega)]
    omega

theorem toVirtual?_eq_some_iff {r : PageRecord} {bus : BusAddr} {va : VirtAddr} :
    r.toVirtual? bus = some va ↔
      bus ∈ r.busRange ∧ bus.toNat + r.virt.toNat = va.toNat + r.bus.toNat := by
  simp only [toVirtual?, Option.bind_eq_some_iff, Range.offsetOf?_eq_some_iff,
    Range.at?_eq_some_iff, Range.mem_iff, virtRange, busRange]
  constructor
  · rintro ⟨offset, ⟨hbus, hlt⟩, hva, -⟩
    omega
  · rintro ⟨⟨hle, hlt⟩, hva⟩
    have hbus := bus.toNat_lt
    refine ⟨UInt64.ofNat (bus.toNat - r.bus.toNat), ?_⟩
    rw [UInt64.toNat_ofNat_of_lt' (by omega)]
    omega

end PageRecord

/-- The huge pages of a pool, with the mapper through which they are mapped for the device. -/
structure PageTable where
  /-- The pages, in the order of their addresses. -/
  records : List PageRecord
  /-- The mapper, if the device needs one. -/
  mapper : Option MapperId
  device : Device

namespace PageTable

variable {σ ε : Type}

/-- The bus address of a virtual address, from the first page that has it. -/
def toBus? (t : PageTable) (va : VirtAddr) : Option BusAddr :=
  t.records.findSome? (·.toBus? va)

/-- The virtual address of a bus address, from the first page that has it. -/
def toVirtual? (t : PageTable) (bus : BusAddr) : Option VirtAddr :=
  t.records.findSome? (·.toVirtual? bus)

/-- The first page that holds all of a span. -/
def pageOfSpan? (t : PageTable) (va : VirtAddr) (len : UInt64) : Option PageRecord :=
  t.records.find? (·.virtRange.containsSpan va len)

/-- Unmaps pages from the device, one after the other, and panics at the first refusal. -/
def unmapAll (p : Platform σ) (mapper : MapperId) (device : Device) :
    List PageRecord → Action σ Empty Unit
  | [] => Action.ofOutcome (.ok ())
  | record :: rest => do
    match ← p.returnBus mapper device record.bus hugePageSize with
    | .ok _ => unmapAll p mapper device rest
    | .error cause =>
      Action.note (Notice.unmappingFailed record.bus device cause)
      Action.panic (.busUnmappingFailed cause)

/-- Unmaps the pages of a table from the device, if there is a mapper. -/
def release (p : Platform σ) (t : PageTable) : Action σ Empty Unit :=
  match t.mapper with
  | some mapper => unmapAll p mapper t.device t.records
  | none => Action.ofOutcome (.ok ())

/-- A page cannot be mapped for the device; nobody can go on from there. -/
def failMapping {α : Type} (phys : PhysAddr) (cause : BusError) : Action σ ε α := do
  Action.note (Notice.mappingFailed phys cause)
  Action.panic (.busMappingFailed cause)

/-- Where the device sees a page: through the mapper, or at its physical address. -/
def busOf (p : Platform σ) (mapper : Option MapperId) (device : Device) (phys : PhysAddr) :
    Action σ ε BusAddr :=
  match mapper with
  | some mapper => do
    match ← p.requestBus mapper device phys hugePageSize with
    | .ok bus => return bus
    | .error cause => failMapping phys cause
  | none => return phys.toBus

/-- The record of page number `page` of a mapping. -/
def recordPage (p : Platform σ) (mapper : Option MapperId) (device : Device) (start : VirtAddr)
    (page : Nat) : Action σ CreateError PageRecord := do
  let virt ← Action.ofOutcome ((Word.mul (UInt64.ofNat page) hugePageSize).bind start.add)
  let phys ← (p.resolve virt).mapError .translate
  let bus ← busOf p mapper device phys
  -- by now the mapper has mapped the page, also when its answer turns out to be of no use
  if hb : bus.toNat + hugePageSize.toNat < UInt64.size then
    Action.note (Notice.recorded page virt phys bus)
    if hv : virt.toNat + hugePageSize.toNat < UInt64.size then
      return ⟨virt, bus, hv, hb⟩
    else
      Action.panic (.rangeOverflow virt.tagged hugePageSize)
  else
    failMapping phys (.overflow device phys bus)

/-- Enters the next `count` pages of a mapping. -/
def extend (p : Platform σ) (start : VirtAddr) (t : PageTable) :
    Nat → Action σ CreateError PageTable
  | 0 => return t
  | count + 1 => do
    let record ← (recordPage p t.mapper t.device start t.records.length).onFailure (t.release p)
    extend p start { t with records := t.records ++ [record] } count

/-- The table of the pages of a mapping. -/
def build (p : Platform σ) (mapper : Option MapperId) (device : Device) (start : VirtAddr)
    (pages : UInt64) : Action σ CreateError PageTable := do
  p.requestMemory pages.toNat PageRecord.bytes
  extend p start ⟨[], mapper, device⟩ pages.toNat

end PageTable

end HugePool
