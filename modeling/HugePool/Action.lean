import HugePool.Journal.Event
import HugePool.Outcome

/-!
# Actions

An `Action` is an operation that reads and changes a state, makes events and ends in an `Outcome`.
Running it gives a `Trace`: the events in order, the state that is left, and the ending.  Actions
form a monad, in which an ending other than a value ends the rest.

What an operation has taken it has to give back when it does not come to its end.  This is written
with a cleanup, an action that has no errors of its own:

* `Action.onFailure` runs a cleanup after an operation that fails or panics;
* `Action.andThen` runs a cleanup after another, even when the first one panics;
* `Action.within` runs an operation on a value that is given back when the operation fails.

A process that aborts runs no cleanup any more.

`Action.inThreads` runs an action in threads and waits for all of them.
-/

namespace HugePool

/-- What a run of an action shows. -/
structure Trace (σ ε α : Type) where
  events : List Event
  /-- The state that is left. -/
  state : σ
  outcome : Outcome ε α

/-- An operation on a state. -/
def Action (σ ε α : Type) : Type := σ → Trace σ ε α

namespace Action

variable {σ τ ε ε' α β : Type}

/-- The trace of an action from a state. -/
def run (a : Action σ ε α) (s : σ) : Trace σ ε α := a s

/-- An action that leaves the state alone and makes no events. -/
def ofOutcome (o : Outcome ε α) : Action σ ε α := fun s => ⟨[], s, o⟩

/-- Goes on with the value, if there is one. -/
def bind (a : Action σ ε α) (next : α → Action σ ε β) : Action σ ε β := fun s =>
  match a.run s with
  | ⟨events, left, .ok value⟩ =>
    let rest := (next value).run left
    ⟨events ++ rest.events, rest.state, rest.outcome⟩
  | ⟨events, left, .error cause⟩ => ⟨events, left, .error cause⟩
  | ⟨events, left, .panic cause⟩ => ⟨events, left, .panic cause⟩
  | ⟨events, left, .abort⟩ => ⟨events, left, .abort⟩

instance : Monad (Action σ ε) where
  pure value := ofOutcome (.ok value)
  bind := bind

/-- Running actions one after the other does not depend on how they are grouped, and an action that
only answers adds nothing. -/
instance : LawfulMonad (Action σ ε) :=
  LawfulMonad.mk' _
    (fun a => by
      funext s
      show (a >>= fun value => pure value) s = a s
      simp only [Bind.bind, bind, Pure.pure, ofOutcome, run]
      rcases a s with ⟨events, s', outcome⟩
      cases outcome <;> simp)
    (fun value next => by
      funext s
      simp [Bind.bind, bind, Pure.pure, ofOutcome, run])
    (fun a next last => by
      funext s
      simp only [Bind.bind, bind, run]
      rcases a s with ⟨events, s', outcome⟩
      cases outcome with
      | ok value =>
        simp only
        -- The second action runs from the state and value that the first one left.
        rcases next value s' with ⟨events', s'', outcome'⟩
        cases outcome' <;> simp
      | _ => rfl)

instance : MonadLift (Outcome ε) (Action σ ε) where
  monadLift := ofOutcome

/-- Makes one event. -/
def emit (event : Event) : Action σ ε Unit := fun s => ⟨[event], s, .ok ()⟩

/-- Logs a record. -/
def note (record : LogRecord) : Action σ ε Unit := emit (.log record)

/-- Asks the state, which may change in answering. -/
def ask (question : StateM σ α) : Action σ ε α := fun s =>
  let (answer, s') := question s
  ⟨[], s', .ok answer⟩

/-- Fails. -/
def fail (cause : ε) : Action σ ε α := ofOutcome (.error cause)

/-- Panics. -/
def panic (cause : Panic) : Action σ ε α := ofOutcome (.panic cause)

/-- The same action with another type of errors. -/
def mapError (f : ε → ε') (a : Action σ ε α) : Action σ ε' α := fun s =>
  let t := a.run s
  ⟨t.events, t.state, t.outcome.mapError f⟩

/-- An action that has no errors, such as a cleanup, as one that may have errors. -/
def ofCleanup (cleanup : Action σ Empty Unit) : Action σ ε Unit := cleanup.mapError Empty.elim

/-- Runs a cleanup after an action that ended in `t`, unless the process aborted. -/
def cleanUp (t : Trace σ ε α) (cleanup : Action σ Empty Unit) : Trace σ ε α :=
  match t.outcome with
  | .abort => t
  | outcome =>
    let c := cleanup.run t.state
    ⟨t.events ++ c.events, c.state, outcome.afterCleanup c.outcome⟩

/-- Runs a cleanup when an action fails or panics. -/
def onFailure (a : Action σ ε α) (cleanup : Action σ Empty Unit) : Action σ ε α := fun s =>
  let t := a.run s
  match t.outcome with
  | .ok _ => t
  | _ => cleanUp t cleanup

/-- Runs a cleanup after another one, even when that one panics. -/
def andThen (first second : Action σ Empty Unit) : Action σ Empty Unit := fun s =>
  cleanUp (first.run s) second

/-- Runs an action on a value of its own.  When the action fails or panics, the value is given back
as the action left it; otherwise the caller gets it. -/
def within (value : τ) (body : Action τ ε α) (giveBack : τ → Action σ Empty Unit) :
    Action σ ε (α × τ) := fun s =>
    let t := body.run value
    match t.outcome with
    | .ok answer => ⟨t.events, s, .ok (answer, t.state)⟩
    | .error cause => cleanUp ⟨t.events, s, .error cause⟩ (giveBack t.state)
    | .panic cause => cleanUp ⟨t.events, s, .panic cause⟩ (giveBack t.state)
    | .abort => ⟨t.events, s, .abort⟩

/-- Gives back the members of a list one after the other, each even when one before it panics. -/
def cleanAll (giveBack : τ → Action σ Empty Unit) : List τ → Action σ Empty Unit
  | [] => ofOutcome (.ok ())
  | value :: rest => andThen (giveBack value) (cleanAll giveBack rest)

/-- Runs an action in a number of threads and waits for all of them.  The threads come one after the
other, and one that panics does not end those that come after it. -/
def inThreads (a : Action σ Empty Unit) : Nat → Action σ Empty Unit
  | 0 => ofOutcome (.ok ())
  | count + 1 => fun s =>
    match a.run s with
    | ⟨events, left, .abort⟩ => ⟨events, left, .abort⟩
    | ⟨events, left, outcome⟩ =>
      let rest := (inThreads a count).run left
      ⟨events ++ rest.events, rest.state, outcome.beside rest.outcome⟩

/-! ### Traces of the operators -/

@[simp] theorem run_pure (value : α) (s : σ) :
    (pure value : Action σ ε α).run s = ⟨[], s, .ok value⟩ := rfl

@[simp] theorem run_ofOutcome (o : Outcome ε α) (s : σ) :
    (ofOutcome o : Action σ ε α).run s = ⟨[], s, o⟩ := rfl

@[simp] theorem run_emit (event : Event) (s : σ) :
    (emit event : Action σ ε Unit).run s = ⟨[event], s, .ok ()⟩ := rfl

@[simp] theorem run_ask (question : StateM σ α) (s : σ) :
    (ask question : Action σ ε α).run s = ⟨[], (question s).2, .ok (question s).1⟩ := rfl

theorem run_bind (a : Action σ ε α) (next : α → Action σ ε β) (s : σ) :
    (a >>= next).run s =
      match (a.run s).outcome with
      | .ok value =>
        ⟨(a.run s).events ++ ((next value).run (a.run s).state).events,
          ((next value).run (a.run s).state).state, ((next value).run (a.run s).state).outcome⟩
      | .error cause => ⟨(a.run s).events, (a.run s).state, .error cause⟩
      | .panic cause => ⟨(a.run s).events, (a.run s).state, .panic cause⟩
      | .abort => ⟨(a.run s).events, (a.run s).state, .abort⟩ := by
  show bind a next s = _
  unfold bind
  rcases a.run s with ⟨events, left, outcome⟩
  cases outcome <;> rfl

theorem run_bind_of_ok {a : Action σ ε α} {next : α → Action σ ε β} {s s' : σ}
    {events : List Event} {value : α} (h : a.run s = ⟨events, s', .ok value⟩) :
    (a >>= next).run s =
      ⟨events ++ ((next value).run s').events, ((next value).run s').state,
        ((next value).run s').outcome⟩ := by
  rw [run_bind, h]

/-- An answer that is there already is passed on. -/
theorem ofOutcome_ok_bind (value : α) (next : α → Action σ ε β) :
    (ofOutcome (.ok value) >>= next) = next value := pure_bind value next

theorem run_bind_eq_ok_iff {a : Action σ ε α} {next : α → Action σ ε β} {s : σ} {value : β} :
    ((a >>= next).run s).outcome = .ok value ↔
      ∃ first, (a.run s).outcome = .ok first ∧
        ((next first).run (a.run s).state).outcome = .ok value := by
  rw [run_bind]
  cases (a.run s).outcome <;> simp

theorem run_mapError_eq_ok_iff {a : Action σ ε α} {f : ε → ε'} {s : σ} {value : α} :
    ((a.mapError f).run s).outcome = .ok value ↔ (a.run s).outcome = .ok value := by
  show (a.run s).outcome.mapError f = .ok value ↔ _
  cases (a.run s).outcome <;> simp [Outcome.mapError]

/-- A cleanup makes no value out of a failure. -/
theorem run_onFailure_eq_ok_iff {a : Action σ ε α} {cleanup : Action σ Empty Unit} {s : σ}
    {value : α} :
    ((a.onFailure cleanup).run s).outcome = .ok value ↔ (a.run s).outcome = .ok value := by
  show (onFailure a cleanup s).outcome = .ok value ↔ _
  unfold onFailure
  cases h : (a.run s).outcome with
  | ok answer => simp [h]
  | error cause => simp [cleanUp, h, Outcome.afterCleanup_eq_ok_iff]
  | panic cause => simp [cleanUp, h, Outcome.afterCleanup_eq_ok_iff]
  | abort => simp [cleanUp, h]

end Action

end HugePool
