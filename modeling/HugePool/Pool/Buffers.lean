import HugePool.Pool.Basic

/-!
# Taking and returning buffers

`Pool.allocate` hands out the free buffer that was returned last, and `Pool.giveBack` returns one.
The pool does not check whose address it is given back, so a free buffer may turn out to lie in none
of the pool's pages; handing that one out is a broken promise, and it is gone from the pool.
-/

namespace HugePool.Pool

/-- Takes a free buffer. -/
def allocate : Action Pool StackError Buffer := fun pool =>
  match pool.free.pop with
  | .error cause => ⟨[], pool, .error cause⟩
  | .ok (virt, rest) =>
    let left := { pool with free := rest }
    match pool.toBus? virt with
    | some bus => ⟨[], left, .ok ⟨virt, bus, pool.geometry.bufferSize⟩⟩
    | none =>
      ⟨[.log (Notice.strayBuffer pool.name virt)], left, .panic (.directoryCorrupt pool.name)⟩

/-- Returns a buffer by its address. -/
def giveBack (va : VirtAddr) : Action Pool StackError Unit := fun pool =>
  match pool.free.refusal? with
  | some cause => ⟨[], pool, .error cause⟩
  | none => ⟨[], { pool with free := pool.free.put va }, .ok ()⟩

/-- Returning a buffer pushes its address on the stack of free buffers. -/
theorem run_giveBack (va : VirtAddr) (pool : Pool) :
    (giveBack va).run pool =
      match pool.free.push va with
      | .error cause => ⟨[], pool, .error cause⟩
      | .ok rest => ⟨[], { pool with free := rest }, .ok ()⟩ := by
  show giveBack va pool = _
  unfold giveBack FreeStack.push
  cases pool.free.refusal? <;> rfl

end HugePool.Pool
