import HugePool.Gate.Basic

/-!
# Threads at a gate

Threads that use one gate take turns at single steps: an attempt to close the gate, a look at it
while waiting, one use of the value by the one who is inside, and opening the gate on the way out.
Between two steps of a thread any number of steps of the others may come.

* A `Body` is what a thread does inside: uses of the value, one after the other, and an ending,
  which may be a panic.  `Body.run` is the body as one uninterrupted operation.
* A `Thread` is at one of four places: before an attempt, waiting, inside, or on its way out.
* `Crowd.step` lets one thread take one step.  A crowd remembers in which order its threads came in.
-/

namespace HugePool.Gate

variable {α β π : Type}

/-- What is done inside a gate. -/
inductive Body (α β π : Type) where
  | finish (answer : Except π β)
  /-- Uses the value once and goes on. -/
  | use (change : α → α) (next : α → Body α β π)

namespace Body

/-- The answer of a body that nobody interrupts, and the value that it leaves. -/
def run : Body α β π → α → Except π β × α
  | .finish answer, value => (answer, value)
  | .use change next, value => (next value).run (change value)

/-- The body that changes the value once. -/
def change (f : α → α) (answer : Except π β) : Body α β π := .use f fun _ => .finish answer

end Body

/-- Where a thread is. -/
inductive Place (α β π : Type) where
  /-- About to try to close the gate. -/
  | outside
  /-- Waiting until the gate looks open. -/
  | waiting
  /-- Inside, with the rest of the body. -/
  | inside (rest : Body α β π)
  /-- About to open the gate. -/
  | leaving (answer : Except π β)

/-- A thread with the bodies that it still has to run and the answers that it got. -/
structure Thread (α β π : Type) where
  place : Place α β π := .outside
  /-- The bodies to run, the present one first. -/
  bodies : List (Body α β π)
  answers : List (Except π β) := []

/-- Threads at one gate. -/
structure Crowd (α β π : Type) where
  gate : Gate α
  threads : List (Thread α β π)
  /-- The numbers of the threads that closed the gate, in order. -/
  entered : List Nat := []

namespace Crowd

/-- One step of a thread, with the gate that it leaves and whether the thread came in by it. -/
def stepThread (g : Gate α) (t : Thread α β π) : Gate α × Thread α β π × Bool :=
  match t.place, t.bodies with
  | .outside, [] => (g, t, false)
  | .outside, body :: _ =>
    match g.tryClose with
    | (true, g) => (g, { t with place := .inside body }, true)
    | (false, g) => (g, { t with place := .waiting }, false)
  | .waiting, _ => (g, if g.closed then t else { t with place := .outside }, false)
  | .inside (.use change next), _ =>
    ({ g with value := change g.value }, { t with place := .inside (next g.value) }, false)
  | .inside (.finish answer), _ => (g, { t with place := .leaving answer }, false)
  | .leaving answer, bodies =>
    (g.reopen, ⟨.outside, bodies.tail, t.answers ++ [answer]⟩, false)

/-- One step of thread number `i`. -/
def step (c : Crowd α β π) (i : Nat) : Crowd α β π :=
  match c.threads[i]? with
  | none => c
  | some t =>
    let (gate, t, came) := stepThread c.gate t
    ⟨gate, c.threads.set i t, if came then c.entered ++ [i] else c.entered⟩

/-- Lets threads take steps in a given order. -/
def steps (c : Crowd α β π) (schedule : List Nat) : Crowd α β π :=
  schedule.foldl step c

/-- Every thread has run all its bodies. -/
def isDone (c : Crowd α β π) : Bool := c.threads.all (·.bodies.isEmpty)

/-- Lets threads with one body of one use each come and go, one after the other.  From waiting it
takes five steps to come out: a look at the gate, closing it, the use, its end, and opening the
gate.  At a closed gate all of them end up waiting. -/
def settle (c : Crowd α β π) : Crowd α β π :=
  c.steps ((List.range c.threads.length).flatMap (List.replicate 5))

end Crowd

end HugePool.Gate
