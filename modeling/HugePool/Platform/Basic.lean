import HugePool.Action

/-!
# Platforms

A `Platform` is what pools need from the outside: a source of huge pages, a resolver that knows
where a virtual address lies in memory, mappers that make memory visible to devices, and working
memory for the pool's own tables.  Each answer may depend on everything that was asked before; the
platform keeps that in a state of its own, and a platform is a set of strategies over such states.

Pools reach their platform only through the actions of this module, which put every call and its
answer into the journal.
-/

namespace HugePool

/-- What a source of huge pages answers when it is asked for some.  A source may have been refused
once and have tried again. -/
structure PagesReply where
  /-- The refusal of the first attempt, if there was a second one. -/
  firstRefusal : Option SystemError := none
  answer : Except PagesError VirtAddr

/-- Why a source of huge pages did not take pages back. -/
inductive ReleaseFault where
  | refused (cause : SystemError)
  /-- No pages of that length were ever handed out. -/
  | impossible (cause : PagesError)

/-- The surroundings of pools, as strategies over a state. -/
structure Platform (σ : Type) where
  pagesLayout : Text.Layout
  resolverLayout : Text.Layout
  /-- Hands out huge pages of a given length. -/
  mapPages : UInt64 → StateM σ PagesReply
  /-- Takes huge pages back. -/
  unmapPages : VirtAddr → UInt64 → StateM σ (Option ReleaseFault)
  /-- Translates a virtual address. -/
  translate : VirtAddr → StateM σ (Except TranslateError PhysAddr)
  /-- How the resolver finds bus addresses where there is no mapper, if it has a way of its own.
  Otherwise they are the physical addresses. -/
  translateToBus? : Option (VirtAddr → StateM σ (Except TranslateError BusAddr)) := none
  /-- Makes memory visible to a device through a mapper. -/
  mapBus : MapperId → Device → PhysAddr → UInt64 → StateM σ (Except BusError BusAddr)
  /-- Hides memory from a device through a mapper. -/
  unmapBus : MapperId → Device → BusAddr → UInt64 → StateM σ (Except BusError Unit)
  /-- Grants that many bytes of working memory. -/
  reserve : Nat → StateM σ Bool

namespace Platform

variable {σ ε : Type} (p : Platform σ)

/-- Asks for huge pages. -/
def requestPages (len : UInt64) : Action σ PagesError VirtAddr := do
  let reply ← Action.ask (p.mapPages len)
  if let some cause := reply.firstRefusal then
    Action.note (Notice.retrying len cause)
  Action.emit (.mapPages len reply.answer)
  Action.ofOutcome (.ofExcept reply.answer)

/-- Gives huge pages back. -/
def returnPages (start : VirtAddr) (len : UInt64) : Action σ ε Unit := do
  let fault ← Action.ask (p.unmapPages start len)
  Action.emit (.unmapPages start len)
  match fault with
  | some (.refused cause) => Action.note (Notice.releaseRefused start cause)
  | some (.impossible cause) => Action.note (Notice.releaseImpossible start cause)
  | none => return

/-- Translates a virtual address. -/
def resolve (va : VirtAddr) : Action σ TranslateError PhysAddr := do
  let answer ← Action.ask (p.translate va)
  Action.emit (.translate va answer)
  Action.ofOutcome (.ofExcept answer)

/-- Translates a virtual address for devices that need no mapper. -/
def resolveToBus (va : VirtAddr) : Action σ TranslateError BusAddr :=
  match p.translateToBus? with
  | none => do return (← p.resolve va).toBus
  | some translate => do
    let answer ← Action.ask (translate va)
    Action.ofOutcome (.ofExcept answer)

/-- Asks a mapper for a page, and tells what it answered. -/
def requestBus (mapper : MapperId) (device : Device) (phys : PhysAddr) (len : UInt64) :
    Action σ ε (Except BusError BusAddr) := do
  let answer ← Action.ask (p.mapBus mapper device phys len)
  Action.emit (.mapBus mapper device phys len answer)
  return answer

/-- Returns a page to a mapper, and tells what it answered. -/
def returnBus (mapper : MapperId) (device : Device) (bus : BusAddr) (len : UInt64) :
    Action σ ε (Except BusError Unit) := do
  let answer ← Action.ask (p.unmapBus mapper device bus len)
  Action.emit (.unmapBus mapper device bus len answer)
  return answer

/-- Asks for working memory for `count` items of `size` bytes each. -/
def requestMemory (count size : Nat) : Action σ CreateError Unit := do
  if ← Action.ask (p.reserve (count * size)) then
    return
  else
    Action.fail .outOfMemory

end Platform

end HugePool
