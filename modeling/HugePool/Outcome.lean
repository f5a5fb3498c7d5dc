import HugePool.Address.Range
import HugePool.Error.Basic

/-!
# Outcomes

An operation ends in one of four ways.  It answers with a value; it fails with an error that its
caller is expected to handle; it panics, because a promise was broken that nobody can handle; or the
whole process aborts, because it panicked while it was cleaning up after a panic.

* `Panic` lists the broken promises;
* `Outcome` is the type of the four endings, a monad in which all but a value end the rest;
* `Outcome.afterCleanup` is the ending of an operation after which a cleanup was run;
* `Outcome.beside` is the ending of a thread and others, all of which were waited for.
-/

namespace HugePool

/-- A broken promise. -/
inductive Panic where
  /-- A sum is not a word. -/
  | addOverflow
  /-- A product is not a word. -/
  | mulOverflow
  /-- An alignment is not a power of two. -/
  | alignNotPowerOfTwo
  /-- A page size is not a power of two. -/
  | pageSizeNotPowerOfTwo
  /-- An offset into a page is not below the size of the page. -/
  | offsetPastPage
  /-- The end of a range is not an address. -/
  | rangeOverflow (start : String) (len : UInt64)
  /-- A frame number has more bits than an entry of the page map holds. -/
  | frameOutOfBounds
  /-- The header of a region is shorter than a word. -/
  | headerTooShort
  /-- The huge pages handed out do not start at a multiple of their size. -/
  | misalignedPages
  /-- A page could not be mapped for the device. -/
  | busMappingFailed (cause : BusError)
  /-- A page could not be unmapped from the device. -/
  | busUnmappingFailed (cause : BusError)
  /-- A free buffer lies in none of the pool's pages. -/
  | directoryCorrupt (pool : String)
  /-- An address lies in none of the pool's buffers. -/
  | notABuffer (va : VirtAddr) (pool : String)
  /-- A thread that was waited for panicked. -/
  | threadPanicked
  deriving DecidableEq, Repr

/-- The message of a panic. -/
def Panic.message : Panic → String
  | .addOverflow => "attempt to add with overflow"
  | .mulOverflow => "attempt to multiply with overflow"
  | .alignNotPowerOfTwo => "assertion failed: align.is_power_of_two()"
  | .pageSizeNotPowerOfTwo => "page size must be a power of two"
  | .offsetPastPage => "offset must be < page size"
  | .rangeOverflow start len =>
    "address range " ++ start ++ "+" ++ Text.hex len.toNat ++ " overflows"
  | .frameOutOfBounds => "value out of bounds [0, 36028797018963967]"
  | .headerTooShort => "header must fit the length word"
  | .misalignedPages => "backend returned a misaligned mapping"
  | .busMappingFailed cause => "DMA bus mapping failed: " ++ cause.message
  | .busUnmappingFailed cause => "DMA bus unmapping failed: " ++ cause.message
  | .directoryCorrupt pool => "DMA pool " ++ pool ++ " directory is corrupt"
  | .notABuffer va pool => va.tagged ++ " is not a buffer of DMA pool " ++ pool
  | .threadPanicked => "a scoped thread panicked"

/-- How an operation ends. -/
inductive Outcome (ε α : Type) where
  /-- It answers. -/
  | ok (value : α)
  /-- It fails. -/
  | error (cause : ε)
  /-- It panics. -/
  | panic (cause : Panic)
  /-- The process aborts. -/
  | abort
  deriving DecidableEq, Repr

namespace Outcome

variable {ε ε' α β : Type}

/-- Goes on with the value, if there is one. -/
@[inline]
def bind (o : Outcome ε α) (next : α → Outcome ε β) : Outcome ε β :=
  match o with
  | .ok value => next value
  | .error cause => .error cause
  | .panic cause => .panic cause
  | .abort => .abort

instance : Monad (Outcome ε) where
  pure := .ok
  bind := bind

instance : LawfulMonad (Outcome ε) :=
  LawfulMonad.mk' _ (fun o => by cases o <;> rfl) (fun _ _ => rfl)
    (fun o _ _ => by cases o <;> rfl)

@[simp] theorem pure_eq (value : α) : (pure value : Outcome ε α) = .ok value := rfl

@[simp] theorem ok_bind (value : α) (next : α → Outcome ε β) :
    (Outcome.ok value >>= next) = next value := rfl

@[simp] theorem error_bind (cause : ε) (next : α → Outcome ε β) :
    (Outcome.error cause >>= next) = .error cause := rfl

@[simp] theorem panic_bind (cause : Panic) (next : α → Outcome ε β) :
    (Outcome.panic cause >>= next) = .panic cause := rfl

@[simp] theorem abort_bind (next : α → Outcome ε β) :
    ((Outcome.abort : Outcome ε α) >>= next) = .abort := rfl

/-- The same ending with another type of errors. -/
def mapError (f : ε → ε') : Outcome ε α → Outcome ε' α
  | .ok value => .ok value
  | .error cause => .error (f cause)
  | .panic cause => .panic cause
  | .abort => .abort

/-- The ending of an operation whose value and error nobody looks at. -/
def ignore : Outcome ε α → Outcome Empty Unit
  | .ok _ => .ok ()
  | .error _ => .ok ()
  | .panic cause => .panic cause
  | .abort => .abort

/-- The value of an `Except`, or its failure. -/
def ofExcept : Except ε α → Outcome ε α
  | .ok value => .ok value
  | .error cause => .error cause

/-- The value of an option, or a failure. -/
def ofOption (o : Option α) (cause : ε) : Outcome ε α :=
  match o with
  | some value => .ok value
  | none => .error cause

/-- The value of an option, or a panic. -/
def orPanic (o : Option α) (cause : Panic) : Outcome ε α :=
  match o with
  | some value => .ok value
  | none => .panic cause

/-- Goes on if a promise holds. -/
def require (p : Prop) [Decidable p] (cause : Panic) : Outcome ε Unit :=
  if p then .ok () else .panic cause

theorem require_pos {p : Prop} [Decidable p] {cause : Panic} (h : p) :
    (require p cause : Outcome ε Unit) = .ok () := if_pos h

theorem require_neg {p : Prop} [Decidable p] {cause : Panic} (h : ¬ p) :
    (require p cause : Outcome ε Unit) = .panic cause := if_neg h

@[simp] theorem orPanic_some (value : α) (cause : Panic) :
    (orPanic (some value) cause : Outcome ε α) = .ok value := rfl

@[simp] theorem orPanic_none (cause : Panic) :
    (orPanic none cause : Outcome ε α) = .panic cause := rfl

theorem bind_eq_ok_iff {o : Outcome ε α} {next : α → Outcome ε β} {value : β} :
    (o >>= next) = .ok value ↔ ∃ first, o = .ok first ∧ next first = .ok value := by
  cases o <;> simp

theorem error_of_bind {o : Outcome ε α} {next : α → Outcome ε β} {cause : ε}
    (h : (o >>= next) = .error cause) :
    o = .error cause ∨ ∃ value, o = .ok value ∧ next value = .error cause := by
  cases o with
  | ok value => exact Or.inr ⟨value, rfl, h⟩
  | error _ =>
    cases h
    exact Or.inl rfl
  | panic _ => cases h
  | abort => cases h

theorem ofExcept_eq_ok_iff {e : Except ε α} {value : α} :
    ofExcept e = .ok value ↔ e = .ok value := by
  cases e <;> simp [ofExcept]

theorem ofOption_eq_ok_iff {o : Option α} {cause : ε} {value : α} :
    ofOption o cause = .ok value ↔ o = some value := by
  cases o <;> simp [ofOption]

theorem orPanic_eq_ok_iff {o : Option α} {cause : Panic} {value : α} :
    (orPanic o cause : Outcome ε α) = .ok value ↔ o = some value := by
  cases o <;> simp [orPanic]

theorem require_eq_ok_iff {p : Prop} [Decidable p] {cause : Panic} {u : Unit} :
    (require p cause : Outcome ε Unit) = .ok u ↔ p := by
  unfold require
  split <;> simp_all

/-- The operation ends in a value or an error. -/
def Settled : Outcome ε α → Prop
  | .ok _ => True
  | .error _ => True
  | .panic _ => False
  | .abort => False

theorem Settled.bind {o : Outcome ε α} {next : α → Outcome ε β} (h : o.Settled)
    (hnext : ∀ value, o = .ok value → (next value).Settled) : (o >>= next).Settled := by
  cases o with
  | ok value => exact hnext value rfl
  | error cause => trivial
  | panic cause => exact h
  | abort => exact h

theorem settled_ofOption (o : Option α) (cause : ε) : (ofOption o cause).Settled := by
  cases o <;> trivial

/-- A settled ending as an `Except`. -/
def toExcept : (o : Outcome ε α) → o.Settled → Except ε α
  | .ok value, _ => .ok value
  | .error cause, _ => .error cause

/-- An `Except` has all that a settled ending has. -/
theorem ofExcept_toExcept {o : Outcome ε α} (h : o.Settled) : .ofExcept (o.toExcept h) = o := by
  cases o with
  | ok value => rfl
  | error cause => rfl
  | panic cause => exact h.elim
  | abort => exact h.elim

/-- The ending of an operation after which a cleanup was run.  A cleanup that answers changes
nothing; one that panics takes the place of a value or an error, and aborts the process when the
operation had panicked before. -/
def afterCleanup (o : Outcome ε α) (cleanup : Outcome Empty Unit) : Outcome ε α :=
  match cleanup, o with
  | .ok _, o => o
  | .panic _, .panic _ => .abort
  | .panic cause, _ => .panic cause
  | .abort, _ => .abort

@[simp] theorem afterCleanup_ok (o : Outcome ε α) : o.afterCleanup (.ok ()) = o := by
  cases o <;> rfl

theorem afterCleanup_eq_ok_iff {o : Outcome ε α} {cleanup : Outcome Empty Unit} {value : α} :
    o.afterCleanup cleanup = .ok value ↔ o = .ok value ∧ cleanup = .ok () := by
  cases cleanup with
  | error cause => exact cause.elim
  | ok _ => simp [afterCleanup]
  | panic cause => cases o <;> simp [afterCleanup]
  | abort => cases o <;> simp [afterCleanup]

/-- The ending of a thread and of the others beside it, once all have ended.  A thread that panicked
does not end the others, and they all end in one panic however many of them panicked. -/
def beside : Outcome Empty Unit → Outcome Empty Unit → Outcome Empty Unit
  | .ok _, others => others
  | .panic _, .abort => .abort
  | .panic _, _ => .panic .threadPanicked
  | .abort, _ => .abort

@[simp] theorem ok_beside (others : Outcome Empty Unit) :
    (Outcome.ok () : Outcome Empty Unit).beside others = others := rfl

end Outcome

/-! ### Operations that panic instead of wrapping -/

namespace Word

variable {ε : Type}

/-- `a + b`, with a panic when the exact sum is not a word. -/
def add (a b : UInt64) : Outcome ε UInt64 := .orPanic (add? a b) .addOverflow

/-- `a * b`, with a panic when the exact product is not a word. -/
def mul (a b : UInt64) : Outcome ε UInt64 := .orPanic (mul? a b) .mulOverflow

/-- The least multiple of `align` that is at least `value`, if it is a word; `align` has to be a
power of two. -/
def alignUp (value align : UInt64) : Outcome ε (Option UInt64) := do
  .require (IsPowerOfTwo align) .alignNotPowerOfTwo
  return alignUp? value align

theorem alignUp_of_isPowerOfTwo {align : UInt64} (h : IsPowerOfTwo align) (value : UInt64) :
    (alignUp value align : Outcome ε _) = .ok (alignUp? value align) := by
  rw [alignUp, Outcome.require_pos h]
  rfl

/-- The least power of two that is at least `w`. -/
def nextPowerOfTwo (w : UInt64) : Outcome ε UInt64 := .orPanic (nextPowerOfTwo? w) .addOverflow

end Word

namespace Address

variable {space : Space} {ε : Type}

/-- The address `n` bytes on. -/
def add (a : Address space) (n : UInt64) : Outcome ε (Address space) :=
  .orPanic (a.add? n) .addOverflow

/-- The address is a multiple of `align`, which has to be a power of two. -/
def isAlignedTo (a : Address space) (align : UInt64) : Outcome ε Bool := do
  .require (Word.IsPowerOfTwo align) .alignNotPowerOfTwo
  return a.word &&& (align - 1) == 0

/-- The physical address at an offset into a frame of memory, for frames of `pageSize` bytes. -/
def ofFrame (frame offset pageSize : UInt64) : Outcome ε (Address .physical) := do
  .require (offset < pageSize) .offsetPastPage
  let start ← Word.mul frame pageSize
  return ⟨← Word.add start offset⟩

end Address

/-- The range of a given start and length. -/
def Range.ofLength {space : Space} {ε : Type} (start : Address space) (len : UInt64) :
    Outcome ε (Range space) :=
  .orPanic (ofLength? start len) (.rangeOverflow start.tagged len)

end HugePool
