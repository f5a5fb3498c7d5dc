import HugePool.Context
import HugePool.Session.Reply

/-!
# Sessions

A `Session` runs commands one after the other against one context and the pools made with it, over
any platform.  Each `Step` gives the reply to a command, the events that the command caused, and the
session that is left.  A panic is a reply like another: what the command had taken is given back,
and the next command finds the session as the panic left it.

At the end of a session the pools that are left are destroyed in the order of their names.
-/

namespace HugePool

/-- One context, its platform's state, and the pools made with it. -/
structure Session (σ : Type) where
  context : Context σ
  state : σ
  /-- The pools, in the order of their names. -/
  holdings : List (String × Holding) := []

/-- What a session does on one command. -/
structure Step (σ : Type) where
  reply : Reply
  events : List Event
  session : Session σ

namespace Session

variable {σ : Type}

/-! ### Pools by name -/

/-- Enters a pool at its place in the order of names, in place of one that has the name. -/
def enter (name : String) (h : Holding) : List (String × Holding) → List (String × Holding)
  | [] => [(name, h)]
  | (other, h') :: rest =>
    if name = other then (name, h) :: rest
    else if name < other then (name, h) :: (other, h') :: rest
    else (other, h') :: enter name h rest

/-- The pool of a name. -/
def find? (s : Session σ) (name : String) : Option Holding := s.holdings.lookup name

/-- The session with a pool entered. -/
def put (s : Session σ) (name : String) (h : Holding) : Session σ :=
  { s with holdings := enter name h s.holdings }

/-- The session without the pool of a name. -/
def remove (s : Session σ) (name : String) : Session σ :=
  { s with holdings := s.holdings.filter (·.1 ≠ name) }

/-! ### Steps -/

/-- A step that makes no events and leaves the session alone. -/
def say (s : Session σ) (reply : Reply) : Step σ := ⟨reply, [], s⟩

/-- Runs an action on the platform. -/
def act {ε α : Type} (s : Session σ) (a : Action σ ε α) (refuse : ε → Reply) (answer : α → Reply) :
    Step σ :=
  let t := a.run s.state
  ⟨t.outcome.reply refuse answer, t.events, { s with state := t.state }⟩

/-- Destroys a pool that is no longer among the pools of the session.  A panic takes the place of
the reply. -/
def drop (step : Step σ) (h : Holding) : Step σ :=
  let t := (h.pool.release step.session.context.platform).run step.session.state
  let session := { step.session with state := t.state }
  let reply := match t.outcome with
    | .ok _ => step.reply
    | outcome => outcome.reply Empty.elim fun _ => step.reply
  ⟨reply, step.events ++ t.events, session⟩

/-- Enters a new pool.  One that had its name is destroyed. -/
def enroll (s : Session σ) (events : List Event) (name : String) (h : Holding) (reply : Reply) :
    Step σ :=
  let step : Step σ := ⟨reply, events, s.put name h⟩
  match s.find? name with
  | some old => drop step old
  | none => step

/-- Makes a pool. -/
def create (s : Session σ) (name : String) (config : Config) : Step σ :=
  let t := (s.context.createPool config).run s.state
  let s := { s with state := t.state }
  match t.outcome with
  | .ok pool => s.enroll t.events name { pool := pool } (.info pool none)
  | outcome => ⟨outcome.reply .ofCreateError fun pool => .info pool none, t.events, s⟩

/-- Makes a pool of one buffer and takes the buffer. -/
def single (s : Session σ) (name poolName : String) (device : Device) (size : UInt64) : Step σ :=
  let t := (s.context.singleBuffer poolName device size).run s.state
  let s := { s with state := t.state }
  match t.outcome with
  | .ok (buffer, pool) =>
    s.enroll t.events name { pool := pool, taken := #[buffer] } (.info pool (some buffer))
  | outcome => ⟨outcome.reply .ofCreateError fun _ => .done, t.events, s⟩

/-! ### Work with a pool -/

/-- Runs an action on a pool of the session.  The pool stays as the action left it. -/
def onPool {ε α : Type} (s : Session σ) (name : String) (h : Holding) (a : Action Pool ε α)
    (refuse : ε → Reply) (answer : α → Pool → Reply) : Step σ :=
  let t := a.run h.pool
  ⟨t.outcome.reply refuse (answer · t.state), t.events, s.put name { h with pool := t.state }⟩

/-- Takes a buffer and remembers it. -/
def allocate (s : Session σ) (name : String) (h : Holding) : Step σ :=
  let t := Pool.allocate.run h.pool
  let taken := match t.outcome with
    | .ok buffer => h.taken.push buffer
    | _ => h.taken
  ⟨t.outcome.reply .ofStackError .buffer, t.events, s.put name ⟨t.state, taken⟩⟩

/-- Takes up to `count` buffers and remembers them; `found` are the addresses of those that were
taken before. -/
def allocateMany (s : Session σ) (name : String) (h : Holding) (found : Array VirtAddr) :
    Nat → Step σ
  | 0 => ⟨.buffers found.toList none, [], s.put name h⟩
  | count + 1 =>
    let t := Pool.allocate.run h.pool
    match t.outcome with
    | .ok buffer =>
      let rest := allocateMany s name ⟨t.state, h.taken.push buffer⟩ (found.push buffer.virt) count
      { rest with events := t.events ++ rest.events }
    | outcome =>
      ⟨outcome.reply (fun cause => .buffers found.toList (some cause)) fun _ => .done, t.events,
        s.put name { h with pool := t.state }⟩

/-- Takes a buffer, if one is free, and returns it. -/
def takeAndReturn : Action Pool Empty Unit := fun pool =>
  match Pool.allocate.run pool with
  | ⟨events, pool, .ok buffer⟩ =>
    let t := (Pool.giveBack buffer.virt).run pool
    ⟨events ++ t.events, t.state, t.outcome.ignore⟩
  | ⟨events, pool, outcome⟩ => ⟨events, pool, outcome.ignore⟩

/-- Runs an action a number of times. -/
def repeated (a : Action Pool Empty Unit) : Nat → Action Pool Empty Unit
  | 0 => return
  | count + 1 => do
    a
    repeated a count

/-- Takes up to `count` buffers. -/
def takeAll : Nat → Action Pool StackError (List VirtAddr)
  | 0 => return []
  | count + 1 => do
    let buffer ← Pool.allocate
    return buffer.virt :: (← takeAll count)

/-- Returns buffers one after the other. -/
def returnAll : List VirtAddr → Action Pool StackError Unit
  | [] => return
  | va :: rest => do
    Pool.giveBack va
    returnAll rest

/-- Lets threads take and return buffers, then takes all free buffers and returns them so that the
one with the lowest address is taken next.  When a thread panicked, nothing is taken after it. -/
def contend (threads rounds : Nat) : Action Pool StackError (List VirtAddr) := do
  .ofCleanup (.inThreads (repeated takeAndReturn rounds) threads)
  let free ← takeAll (← Action.ask get).available
  let ordered := free.mergeSort fun a b => a.word ≤ b.word
  returnAll ordered.reverse
  return ordered

/-! ### The memory of buffers -/

/-- A buffer that was taken, if all of it is in the memory of the pool. -/
def reach (h : Holding) (index : Nat) : Except Reply Buffer :=
  match h.taken[index]? with
  | none => .error .badReference
  | some buffer =>
    let pool := h.pool
    let stop := pool.region.mapping.toNat + pool.region.mappedLen.toNat
    if buffer.virt.toNat < pool.baseVirtual.toNat ∨
        stop < buffer.virt.toNat + buffer.size.toNat then
      .error .outsidePool
    else .ok buffer

/-- The address of `count` bytes of a buffer that was taken. -/
def reachBytes (h : Holding) (index offset count : Nat) : Except Reply VirtAddr :=
  match reach h index with
  | .error reply => .error reply
  | .ok buffer =>
    if buffer.size.toNat < offset + count then .error .outsideBuffer
    else .ok ⟨buffer.virt.word + UInt64.ofNat offset⟩

/-- Writes one byte all over a buffer. -/
def fill (s : Session σ) (name : String) (h : Holding) (index : Nat) (byte : UInt8) : Step σ :=
  match reach h index with
  | .error reply => s.say reply
  | .ok buffer =>
    let pool := h.pool.store buffer.virt buffer.size.toNat fun _ => byte
    ⟨.number buffer.size.toNat, [], s.put name { h with pool := pool }⟩

/-- Writes bytes into a buffer. -/
def write (s : Session σ) (name : String) (h : Holding) (index offset : Nat) (bytes : List UInt8) :
    Step σ :=
  match reachBytes h index offset bytes.length with
  | .error reply => s.say reply
  | .ok va =>
    let pool := h.pool.store va bytes.length (bytes.getD · 0)
    ⟨.bytes (pool.load va bytes.length), [], s.put name { h with pool := pool }⟩

/-- Reads bytes from a buffer. -/
def read (s : Session σ) (h : Holding) (index offset count : Nat) : Step σ :=
  match reachBytes h index offset count with
  | .error reply => s.say reply
  | .ok va => s.say (.bytes (h.pool.load va count))

/-! ### Commands -/

/-- Goes on with the address of a reference, if it stands for one. -/
def withAddress (s : Session σ) (h : Holding) (place : Reference) (next : UInt64 → Step σ) :
    Step σ :=
  match h.address? place with
  | some address => next address
  | none => s.say .badReference

/-- Returns a buffer that was taken, and destroys the pool. -/
def giveBackSingle (s : Session σ) (name : String) (h : Holding) (index : Nat) : Step σ :=
  match h.taken[index]? with
  | none => s.say .badReference
  | some buffer =>
    (s.remove name).act (Pool.giveBackSingle s.context.platform h.pool buffer) .ofStackError
      fun _ => .text "freed"

/-- Works with a pool of the session. -/
def runOnPool (s : Session σ) (name : String) (h : Holding) : PoolCommand → Step σ
  | .info => s.say (.info h.pool none)
  | .allocate => s.allocate name h
  | .allocateMany count => s.allocateMany name h #[] count
  | .giveBack place =>
    s.withAddress h place fun address =>
      s.onPool name h (Pool.giveBack ⟨address⟩) .ofStackError fun _ pool => .number pool.available
  | .giveBackSingle index => s.giveBackSingle name h index
  | .destroy => drop ⟨.text "destroyed", [], s.remove name⟩ h
  | .available => s.say (.number h.pool.available)
  | .describe indented =>
    s.say (.text (if indented then h.pool.layout.indented else h.pool.layout.line))
  | .describeBuffer index =>
    match h.taken[index]? with
    | some buffer => s.say (.text buffer.layout.line)
    | none => s.say .badReference
  | .describePage index =>
    match h.pool.hugePages[index]? with
    | some record => s.say (.text record.layout.line)
    | none => s.say .badReference
  | .pages => s.say (.pages h.pool.hugePages)
  | .toBus place =>
    s.withAddress h place fun address =>
      s.say (.addressIfAny ((h.pool.toBus? ⟨address⟩).map (·.word)))
  | .toVirtual place =>
    s.withAddress h place fun address =>
      s.say (.addressIfAny ((h.pool.toVirtual? ⟨address⟩).map (·.word)))
  | .indexOf place =>
    s.withAddress h place fun address =>
      s.say ((h.pool.indexOf ⟨address⟩ : Outcome Empty UInt64).reply Empty.elim
        fun index => .number index.toNat)
  | .mapSpan place len direction =>
    s.withAddress h place fun address =>
      s.act (h.pool.mapSpan ⟨address⟩ len direction) .ofSpanError fun bus => .address bus.word
  | .unmapSpan place len direction =>
    s.withAddress h place fun address =>
      s.act (h.pool.unmapSpan ⟨address⟩ len direction) .ofSpanError fun _ => .text "ok"
  | .fill index byte => s.fill name h index byte
  | .write index offset bytes => s.write name h index offset bytes
  | .read index offset count => s.read h index offset count
  | .contend threads rounds =>
    s.onPool name h (contend threads rounds) .ofStackError
      fun free pool => .contention pool.available free

/-- The reply to a command for a pool that does not exist. -/
def absent : PoolCommand → Reply
  | .giveBackSingle _ => .badReference
  | _ => .noPool

/-- Runs a command. -/
def step (s : Session σ) : Command → Step σ
  | .setMapper mapper => { s with context := s.context.setMapper mapper }.say .done
  | .clearMapper => { s with context := s.context.clearMapper }.say .done
  | .hasMapper => s.say (.truth s.context.mapper.isSome)
  | .describe => s.say (.text s.context.layout.line)
  | .toPhysical va =>
    s.act (s.context.toPhysical va) .ofTranslateError fun phys => .address phys.word
  | .toBus va => s.act (s.context.toBus va) .ofTranslateError fun bus => .address bus.word
  | .create name config => s.create name config
  | .single name poolName device size => s.single name poolName device size
  | .onPool name command =>
    match s.find? name with
    | some h => s.runOnPool name h command
    | none => s.say (absent command)

/-- Runs commands one after the other. -/
def runAll (s : Session σ) : List Command → List (Step σ)
  | [] => []
  | command :: rest =>
    let first := s.step command
    first :: runAll first.session rest

/-- Destroys the pools that are left. -/
def finish (s : Session σ) : List (String × Holding) → List (Step σ)
  | [] => []
  | (name, h) :: rest =>
    let first := drop ⟨.ended name, [], s.remove name⟩ h
    first :: finish first.session rest

end Session

end HugePool
