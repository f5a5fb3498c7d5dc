import HugePool.Gate.Interleaving

/-!
# Sessions at a gate

A `GateSession` is one gate that guards a list of words, and one place to keep a guard.  Its
commands use the gate in every way there is; those that would wait for a guard that the session
itself holds are refused.
-/

namespace HugePool

/-- A gate and one place to keep a guard. -/
structure GateSession where
  gate : Gate (List UInt64)
  held : Bool := false
  deriving DecidableEq, Repr

/-- A use of the gate. -/
inductive GateCommand where
  | lock
  | tryLock
  | unlock
  | push (word : UInt64)
  | read
  | withPush (word : UInt64)
  | withPop
  /-- Append a word inside the gate, and panic. -/
  | withPanic (word : UInt64)
  /-- Append a word as the owner of the gate. -/
  | ownedPush (word : UInt64)
  | closed
  | describe
  /-- Let threads append a word each. -/
  | contend (threads : Nat) (word : UInt64)
  deriving DecidableEq, Repr

/-- What a session replies. -/
inductive GateReply where
  | held
  | truth (value : Bool)
  | words (values : List UInt64)
  | wordIfAny (value : Option UInt64)
  | text (value : String)
  | panicked (message : String)
  /-- The length of the list under the guard, if there was one, and the list after the threads. -/
  | contention (whileHeld : Option Nat) (after : List UInt64)
  | notHeld
  /-- The session would wait for its own guard. -/
  | wouldSpin
  /-- The owner cannot be alone while there is a guard. -/
  | borrowed
  deriving DecidableEq, Repr

namespace GateSession

/-- The message of a body that panics. -/
def panicMessage (word : UInt64) : String := "boom " ++ toString word.toNat

/-- Keeps a guard.  One that was kept before is given up after the new one was made. -/
def keep (s : GateSession) (g : Gate (List UInt64)) : GateSession :=
  ⟨if s.held then g.reopen else g, true⟩

/-- Gives the guard up, if there is one. -/
def giveUp (s : GateSession) : GateSession :=
  if s.held then ⟨s.gate.reopen, false⟩ else s

/-- Runs a body inside the gate, unless the session holds a guard. -/
def inside {β : Type} (s : GateSession) (body : List UInt64 → Except String β × List UInt64)
    (answer : β → List UInt64 → GateReply) : GateReply × GateSession :=
  if s.held then (.wouldSpin, s)
  else
    match s.gate.withLock? body with
    | none => (.wouldSpin, s)
    | some (.ok value, gate) => (answer value gate.value, { s with gate := gate })
    | some (.error message, gate) => (.panicked message, { s with gate := gate })

/-- Lets threads append a word each, until all have come out.  At a closed gate they wait for the
guard of the session to be given up; an open one lets them in, also past that guard.  The length
under the guard is read when all threads have come out or wait. -/
def contend (s : GateSession) (threads : Nat) (word : UInt64) : GateReply × GateSession :=
  let body : Gate.Body (List UInt64) Unit Empty := .change (· ++ [word]) (.ok ())
  let crowd : Gate.Crowd (List UInt64) Unit Empty :=
    { gate := s.gate, threads := List.replicate threads { bodies := [body] } }
  let before := crowd.settle
  let whileHeld := if s.held then some before.gate.value.length else none
  let after := { before with gate := (GateSession.mk before.gate s.held).giveUp.gate }.settle
  (.contention whileHeld after.gate.value, ⟨after.gate, false⟩)

/-- Runs a command. -/
def step (s : GateSession) : GateCommand → GateReply × GateSession
  | .lock =>
    if s.held then (.wouldSpin, s)
    else
      match s.gate.lock? with
      | some gate => (.held, ⟨gate, true⟩)
      | none => (.wouldSpin, s)
  | .tryLock =>
    match s.gate.tryLock with
    | (true, gate) => (.truth true, s.keep gate)
    | (false, gate) => (.truth false, { s with gate := gate })
  | .unlock => (.truth s.held, s.giveUp)
  | .push word =>
    if s.held then
      let gate := { s.gate with value := s.gate.value ++ [word] }
      (.words gate.value, { s with gate := gate })
    else (.notHeld, s)
  | .read => (if s.held then .words s.gate.value else .notHeld, s)
  | .withPush word =>
    s.inside (fun values => (.ok (), values ++ [word])) fun _ values => .words values
  | .withPop =>
    s.inside (fun values => (.ok values.getLast?, values.dropLast)) fun last _ => .wordIfAny last
  | .withPanic word =>
    let body (values : List UInt64) : Except String Unit × List UInt64 :=
      (.error (panicMessage word), values ++ [word])
    s.inside body fun _ values => .words values
  | .ownedPush word =>
    if s.held then (.borrowed, s)
    else
      let gate := s.gate.modifyOwned (· ++ [word])
      (.words gate.value, { s with gate := gate })
  | .closed => (.truth s.gate.closed, s)
  | .describe => (.text s.gate.layout.line, s)
  | .contend threads word => s.contend threads word

/-- Runs commands one after the other. -/
def runAll (s : GateSession) : List GateCommand → List GateReply
  | [] => []
  | command :: rest =>
    let (reply, s) := s.step command
    reply :: s.runAll rest

end GateSession

end HugePool
