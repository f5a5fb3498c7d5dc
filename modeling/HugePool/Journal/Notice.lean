import HugePool.Error.Basic
import HugePool.Journal.Record

/-!
# What the library logs

One function for each thing that the library tells, with its level and its words.  Creating and
destroying a pool is information; what happens on the way there is for debugging; a refusal that the
library copes with is a warning, and one that it does not cope with an error.
-/

namespace HugePool.Notice

/-- The part that maps and releases huge pages. -/
def pagesOrigin : String := "dma_pool::huge_page"

/-- The part that keeps the table of huge pages. -/
def tableOrigin : String := "dma_pool::directory"

/-- The part that runs a pool. -/
def poolOrigin : String := "dma_pool::pool"

/-! ### Huge pages -/

/-- A first attempt to map huge pages was refused. -/
def retrying (len : UInt64) (cause : SystemError) : LogRecord :=
  ⟨.warn, pagesOrigin, PageSize.huge.name ++ " hugetlb mapping of " ++ Text.hex len.toNat
    ++ " bytes failed (" ++ cause.message ++ "); retrying with the default huge page size"⟩

/-- The operating system refused to take pages back. -/
def releaseRefused (start : VirtAddr) (cause : SystemError) : LogRecord :=
  ⟨.warn, pagesOrigin, "munmap of " ++ start.tagged ++ " failed: " ++ cause.message⟩

/-- Pages of that length cannot have been handed out. -/
def releaseImpossible (start : VirtAddr) (cause : PagesError) : LogRecord :=
  ⟨.warn, pagesOrigin, "cannot release " ++ start.tagged ++ ": " ++ cause.message⟩

/-- A region was mapped. -/
def mapped (pages : UInt64) (start : VirtAddr) : LogRecord :=
  ⟨.debug, pagesOrigin, "mapped " ++ toString pages.toNat ++ " huge page(s) at " ++ start.tagged⟩

/-- A region is about to be released. -/
def releasing (len : UInt64) (start : VirtAddr) : LogRecord :=
  ⟨.debug, pagesOrigin, "releasing " ++ Text.hex len.toNat ++ " bytes at " ++ start.tagged⟩

/-! ### The table of huge pages -/

/-- A page was entered in the table. -/
def recorded (page : Nat) (virt : VirtAddr) (phys : PhysAddr) (bus : BusAddr) : LogRecord :=
  ⟨.debug, tableOrigin, "huge page " ++ toString page ++ ": " ++ virt.tagged ++ " -> "
    ++ phys.tagged ++ " -> " ++ bus.tagged⟩

/-- A page could not be mapped for the device. -/
def mappingFailed (phys : PhysAddr) (cause : BusError) : LogRecord :=
  ⟨.error, tableOrigin, "cannot bus-map huge page " ++ phys.tagged ++ ": " ++ cause.message⟩

/-- A page could not be unmapped from the device. -/
def unmappingFailed (bus : BusAddr) (device : Device) (cause : BusError) : LogRecord :=
  ⟨.error, tableOrigin, "cannot unmap " ++ bus.tagged ++ " from device " ++ device.text ++ ": "
    ++ cause.message⟩

/-! ### Pools -/

/-- The first buffer of a new pool has no physical address. -/
def baseUnresolved (pool : String) (start : VirtAddr) (cause : TranslateError) : LogRecord :=
  ⟨.warn, poolOrigin, "pool " ++ pool ++ ": cannot resolve base address " ++ start.tagged ++ ": "
    ++ cause.message⟩

/-- A pool was made. -/
def created (pool : String) (device : Device) (count stride alignment pages : UInt64)
    (start : VirtAddr) (phys : PhysAddr) : LogRecord :=
  ⟨.info, poolOrigin, "created DMA pool " ++ pool ++ " for device " ++ device.text ++ ": "
    ++ toString count.toNat ++ " x " ++ Text.hex stride.toNat ++ " bytes (align "
    ++ toString alignment.toNat ++ ") in " ++ toString pages.toNat ++ " huge page(s) at "
    ++ start.tagged ++ " / " ++ phys.tagged⟩

/-- A pool is about to be destroyed. -/
def destroying (pool : String) (free : Nat) (count len : UInt64) : LogRecord :=
  ⟨.info, poolOrigin, "destroying DMA pool " ++ pool ++ " (" ++ toString free ++ " of "
    ++ toString count.toNat ++ " buffers free, " ++ Text.hex len.toNat ++ " bytes mapped)"⟩

/-- A free buffer lies in none of the pool's pages. -/
def strayBuffer (pool : String) (virt : VirtAddr) : LogRecord :=
  ⟨.error, poolOrigin, "pool " ++ pool ++ ": free list yielded " ++ virt.tagged
    ++ " outside every huge page"⟩

/-- A span was looked up for a transfer. -/
def spanMapped (pool : String) (va : VirtAddr) (len : UInt64) (direction : Direction) : LogRecord :=
  ⟨.debug, poolOrigin, "pool " ++ pool ++ ": map " ++ va.tagged ++ " +" ++ Text.hex len.toNat ++ " "
    ++ direction.name⟩

/-- A transfer on a span has ended. -/
def spanUnmapped (pool : String) (bus : BusAddr) (len : UInt64) (direction : Direction) :
    LogRecord :=
  ⟨.debug, poolOrigin, "pool " ++ pool ++ ": unmap " ++ bus.tagged ++ " +" ++ Text.hex len.toNat
    ++ " " ++ direction.name⟩

end HugePool.Notice
