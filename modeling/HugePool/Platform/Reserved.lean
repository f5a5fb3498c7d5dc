import HugePool.PageMap.Basic
import HugePool.Platform.Basic

/-!
# Reserved huge pages

The operating system keeps a number of huge pages for those who ask with the right flags.  This is
the platform of a machine that has none set aside: every request is refused, first for pages of
2 MiB and then for pages of the default size.  Virtual addresses are translated by the page map of
the process.
-/

namespace HugePool.ReservedPages

/-- Why the operating system does not take pages back, if it does not: they have to start at a
multiple of the size of a base page. -/
def releaseFault? (start : VirtAddr) : Option ReleaseFault :=
  if start.offsetIn .base = 0 then none else some (.refused .invalidArgument)

/-- The platform of reserved huge pages on a machine that has none. -/
def platform (pageMap : PageMap) : Platform Unit where
  pagesLayout := .bare "HugeTlb"
  resolverLayout := pageMap.layout
  mapPages len :=
    return { firstRefusal := some .noMemory, answer := .error (.mapRefused len .noMemory) }
  unmapPages start _ := return releaseFault? start
  translate va := return pageMap.lookup va
  mapBus _ _ phys _ := return .ok phys.toBus
  unmapBus _ _ _ _ := return .ok ()
  reserve _ := return true

end HugePool.ReservedPages
