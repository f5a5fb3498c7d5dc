import HugePool.PageMap.Basic
import HugePool.Platform.Heap

/-!
# Scripted platforms

A scripted platform answers as it is told beforehand, so that every failure of the surroundings can
be brought about at every call.  Calls are counted from one; a script lists the numbers of the calls
that are refused.

* The source of huge pages hands out one stretch of addresses after the other, or is the heap.
* The resolver adds a fixed distance, except for addresses in a table, or reads a page map.
* Each mapper adds a fixed distance, except for the calls that have an answer of their own.
-/

namespace HugePool

/-! ### Scripts -/

/-- Where huge pages come from. -/
inductive PagesScript where
  /-- From `base` on.  More than 1 GiB in one piece is refused, unless `unbounded`. -/
  | fixed (base : UInt64) (refused : List Nat) (unbounded : Bool)
  | heap

/-- How a virtual address is translated. -/
inductive ResolverRule where
  /-- By the table, and by adding a distance where the table has nothing. -/
  | shifted (distance : UInt64) (table : List (UInt64 × UInt64))
  | pageMap (m : PageMap)
  /-- By taking the address as it is. -/
  | identity

/-- How virtual addresses are translated. -/
structure ResolverScript where
  rule : ResolverRule := .shifted 0 []
  /-- The calls that are refused. -/
  refused : List Nat := []
  refusal : VirtAddr → TranslateError := .notPresent

/-- What a mapper answers. -/
structure MapperScript where
  /-- The distance between a physical address and its bus address. -/
  distance : UInt64 := 0
  /-- The bus addresses of the first calls. -/
  answers : List UInt64 := []
  refusedMaps : List Nat := []
  refusedUnmaps : List Nat := []
  status : Int := -12

/-- The description of a mapper, which does not tell its rules. -/
def MapperScript.layout (_ : MapperScript) : Text.Layout := .bare "FnBusMapper"

/-- What the surroundings answer. -/
structure Script where
  pages : PagesScript := .fixed 0x100000000 [] false
  resolver : ResolverScript := {}
  mappers : List MapperScript := []

/-! ### What a scripted platform remembers -/

/-- The number of calls to a mapper. -/
structure MapperCalls where
  maps : Nat := 0
  unmaps : Nat := 0

/-- The state of a scripted platform. -/
structure ScriptState where
  /-- Where the next huge pages start. -/
  next : UInt64
  heap : Heap := {}
  pageCalls : Nat := 0
  translateCalls : Nat := 0
  mapperCalls : MapperId → MapperCalls := fun _ => {}

namespace ScriptState

/-- The calls to one mapper, replaced. -/
def setMapperCalls (s : ScriptState) (mapper : MapperId) (calls : MapperCalls) : ScriptState :=
  { s with mapperCalls := fun id => if id = mapper then calls else s.mapperCalls id }

end ScriptState

namespace Script

/-- The state before the first call. -/
def start (script : Script) : ScriptState :=
  match script.pages with
  | .fixed base _ _ => { next := base }
  | .heap => { next := Heap.start }

/-- The length above which a source of huge pages refuses, unless it is unbounded. -/
def pagesBound : UInt64 := 1073741824

/-- Hands out huge pages. -/
def mapPages (script : Script) (len : UInt64) : StateM ScriptState PagesReply := fun s =>
  let call := s.pageCalls + 1
  let s := { s with pageCalls := call }
  match script.pages with
  | .fixed _ refused unbounded =>
    if refused.contains call || (pagesBound < len && !unbounded) then
      ({ answer := .error (.heapExhausted len) }, s)
    else
      ({ answer := .ok ⟨s.next⟩ }, { s with next := s.next + len })
  | .heap =>
    let (answer, heap) := Heap.mapPages len s.heap
    ({ answer := answer }, { s with heap := heap })

/-- Takes huge pages back.  Only the heap has a use for them. -/
def unmapPages (script : Script) (_ : VirtAddr) (len : UInt64) :
    StateM ScriptState (Option ReleaseFault) := fun s =>
  match script.pages with
  | .fixed _ _ _ => (none, s)
  | .heap =>
    let (fault, heap) := Heap.unmapPages len s.heap
    (fault, { s with heap := heap })

/-- Translates a virtual address by a rule. -/
def follow (rule : ResolverRule) (va : VirtAddr) : Except TranslateError PhysAddr :=
  match rule with
  | .shifted distance table =>
    match table.lookup va.word with
    | some phys => .ok ⟨phys⟩
    | none => .ok ⟨va.word + distance⟩
  | .pageMap m => m.lookup va
  | .identity => .ok ⟨va.word⟩

/-- Translates a virtual address. -/
def translate (script : Script) (va : VirtAddr) :
    StateM ScriptState (Except TranslateError PhysAddr) := fun s =>
  let call := s.translateCalls + 1
  let s := { s with translateCalls := call }
  if script.resolver.refused.contains call then (.error (script.resolver.refusal va), s)
  else (follow script.resolver.rule va, s)

/-- Makes memory visible through a mapper. -/
def mapBus (script : Script) (mapper : MapperId) (device : Device) (phys : PhysAddr) (_ : UInt64) :
    StateM ScriptState (Except BusError BusAddr) := fun s =>
  let rules := script.mappers.getD mapper {}
  let calls := s.mapperCalls mapper
  let call := calls.maps + 1
  let s := s.setMapperCalls mapper { calls with maps := call }
  if rules.refusedMaps.contains call then (.error (.mapRefused device phys rules.status), s)
  else
    match rules.answers[call - 1]? with
    | some bus => (.ok ⟨bus⟩, s)
    | none => (.ok ⟨phys.word + rules.distance⟩, s)

/-- Hides memory through a mapper. -/
def unmapBus (script : Script) (mapper : MapperId) (device : Device) (bus : BusAddr) (_ : UInt64) :
    StateM ScriptState (Except BusError Unit) := fun s =>
  let rules := script.mappers.getD mapper {}
  let calls := s.mapperCalls mapper
  let call := calls.unmaps + 1
  let s := s.setMapperCalls mapper { calls with unmaps := call }
  if rules.refusedUnmaps.contains call then (.error (.unmapRefused device bus rules.status), s)
  else (.ok (), s)

/-- The description of the source of huge pages. -/
def pagesLayout (script : Script) : Text.Layout :=
  match script.pages with
  | .fixed _ _ _ => .bare "FixedPages"
  | .heap => .bare "HeapPages"

/-- The description of the resolver. -/
def resolverLayout (script : Script) : Text.Layout :=
  match script.resolver.rule with
  | .identity => .bare "IdentityResolver"
  | _ => .bare "TestResolver"

/-- The platform that follows a script. -/
def platform (script : Script) : Platform ScriptState where
  pagesLayout := script.pagesLayout
  resolverLayout := script.resolverLayout
  mapPages := script.mapPages
  unmapPages := script.unmapPages
  translate := script.translate
  mapBus := script.mapBus
  unmapBus := script.unmapBus
  reserve bytes := return Heap.canReserve bytes

end Script

end HugePool
