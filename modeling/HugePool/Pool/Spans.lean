import HugePool.Pool.Basic

/-!
# Spans for transfers

The memory of a pool is visible to the device from the start, so preparing a span for a transfer
only looks it up.  A span is one that a transfer may use when it lies among the buffers and in one
huge page.  Neither operation changes the pool.
-/

namespace HugePool.Pool

variable {σ : Type}

/-- The bus address for a transfer of `len` bytes at `va`. -/
def mapSpan (pool : Pool) (va : VirtAddr) (len : UInt64) (direction : Direction) :
    Action σ SpanError BusAddr :=
  let refusal : SpanError := ⟨va.word, len⟩
  if pool.buffers.containsSpan va len then
    match pool.table.pageOfSpan? va len with
    | none => Action.fail refusal
    | some record =>
      match record.virtRange.offsetOf? va with
      | none => Action.fail refusal
      | some offset => do
        Action.note (Notice.spanMapped pool.name va len direction)
        Action.ofOutcome (record.bus.add offset)
  else Action.fail refusal

/-- Ends the transfer of `len` bytes at `bus`. -/
def unmapSpan (pool : Pool) (bus : BusAddr) (len : UInt64) (direction : Direction) :
    Action σ SpanError Unit :=
  let refusal : SpanError := ⟨bus.word, len⟩
  match pool.toVirtual? bus with
  | none => Action.fail refusal
  | some va =>
    if pool.buffers.containsSpan va len && (pool.table.pageOfSpan? va len).isSome then
      Action.note (Notice.spanUnmapped pool.name bus len direction)
    else Action.fail refusal

end HugePool.Pool
