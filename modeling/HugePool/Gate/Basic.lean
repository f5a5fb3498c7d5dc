import HugePool.Text.Layout

/-!
# Gates

A `Gate` guards a value.  Whoever closes it may use the value until the gate is opened again; the
one who may is said to hold a guard, and giving the guard up opens the gate.

* `Gate.tryClose` is the one atomic step by which a gate is closed.
* `Gate.lock?` closes an open gate; at a closed one the caller waits.
* `Gate.tryLock` makes a single attempt.  It makes its guard before it knows whether it may have it,
  and gives it up at once when it may not, so a failed attempt opens the gate.
* `Gate.withLock?` runs a body on the value and opens the gate after it, also when the body panics.
-/

namespace HugePool

/-- A value that one at a time may use. -/
structure Gate (α : Type) where
  /-- Someone may use the value. -/
  closed : Bool := false
  value : α
  deriving DecidableEq, Repr

namespace Gate

variable {α β π : Type}

/-- An open gate. -/
def ofValue (value : α) : Gate α := ⟨false, value⟩

/-- Closes the gate if it is open, and tells whether it did. -/
def tryClose (g : Gate α) : Bool × Gate α :=
  if g.closed then (false, g) else (true, { g with closed := true })

/-- Gives a guard up. -/
def reopen (g : Gate α) : Gate α := { g with closed := false }

/-- Closes the gate, or has to wait. -/
def lock? (g : Gate α) : Option (Gate α) :=
  match g.tryClose with
  | (true, g) => some g
  | (false, _) => none

/-- Makes one attempt at a guard, and tells whether it got one. -/
def tryLock (g : Gate α) : Bool × Gate α :=
  match g.tryClose with
  | (true, g) => (true, g)
  -- a guard is made before the answer is looked at, and given up when it is not handed out
  | (false, g) => (false, g.reopen)

/-- Runs a body on the value of an open gate, or has to wait.  What the body did to the value stays
when it panics. -/
def withLock? (g : Gate α) (body : α → Except π β × α) : Option (Except π β × Gate α) :=
  (g.lock?).map fun g =>
    let (answer, value) := body g.value
    (answer, { g with value := value }.reopen)

/-- Uses the value without a guard, for an owner whom nobody else can meet. -/
def modifyOwned (g : Gate α) (f : α → α) : Gate α := { g with value := f g.value }

/-- The description of a gate. -/
def layout (g : Gate α) : Text.Layout :=
  .record "SpinGate" [("closed", .bool g.closed)] false

end Gate

end HugePool
