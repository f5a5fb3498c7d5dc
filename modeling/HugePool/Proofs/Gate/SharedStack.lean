import HugePool.Pool.FreeStack
import HugePool.Proofs.Gate.Serial

/-!
# A stack behind a gate

The stack of free buffers is used by many threads, each of which takes the gate, reads `head` and
perhaps a slot, and then writes what it has to write (`StackCall.body`).  Between two of these
accesses others may try to come in.

* `StackCall.run_body`: the accesses of a call, made without interruption, come to what the stack
  does at once (`FreeStack.reply`).
* `Gate.sections_serialised` is the main statement about gates: whatever threads do inside, and
  however their steps are mixed, they are inside one at a time, and value and answers are those of
  the same bodies run one after the other in the order in which the threads came in.  For the stack
  this is the order in which pops, pushes and counts are answered.
-/

namespace HugePool

/-! ### Calls of a stack, access by access -/

/-- What a thread wants of a stack. -/
inductive StackCall where
  | pop
  | push (va : VirtAddr)
  | available
  deriving DecidableEq

/-- What a stack replies. -/
inductive StackReply where
  | popped (answer : Except StackError VirtAddr)
  | pushed (answer : Except StackError Unit)
  | counted (available : Nat)

/-- What a stack replies to a call, and the stack after it. -/
def FreeStack.reply : StackCall → FreeStack → StackReply × FreeStack
  | .pop, s =>
    match s.pop with
    | .ok (va, rest) => (.popped (.ok va), rest)
    | .error cause => (.popped (.error cause), s)
  | .push va, s =>
    match s.push va with
    | .ok grown => (.pushed (.ok ()), grown)
    | .error cause => (.pushed (.error cause), s)
  | .available, s => (.counted s.available, s)

namespace Gate.Body

variable {α β γ π : Type}

/-- A body that begins with reading a part of the value. -/
def read (part : α → γ) (next : γ → Body α β π) : Body α β π :=
  .use id fun value => next (part value)

/-- A body that begins with writing a part of the value. -/
def write (change : α → α) (next : Body α β π) : Body α β π := .use change fun _ => next

end Gate.Body

open Gate (Body)

/-- The accesses that a call makes. -/
def StackCall.body {π : Type} : StackCall → Body FreeStack StackReply π
  | .pop =>
    .read (·.head) fun head =>
    .read (·.slots[head]?) fun slot? =>
    match slot? with
    | none => .finish (.ok (.popped (.error .exhausted)))
    | some va =>
      .write (fun s => { s with head := head + 1 }) <|
      .finish (.ok (.popped (.ok va)))
  | .push va =>
    .read (·.head) fun head =>
    .read (·.capacity) fun capacity =>
    if head = 0 then .finish (.ok (.pushed (.error .full)))
    else if capacity < head then .finish (.ok (.pushed (.error (.corrupted head capacity))))
    else
      .write (fun s => { s with head := head - 1 }) <|
      .write (fun s => { s with slots := s.slots.setIfInBounds (head - 1) va }) <|
      .finish (.ok (.pushed (.ok ())))
  | .available =>
    .read (·.capacity) fun capacity =>
    .read (·.head) fun head =>
    .finish (.ok (.counted (capacity - head)))

/-- The accesses of a call come to what the stack does at once. -/
theorem StackCall.run_body {π : Type} (call : StackCall) (s : FreeStack) :
    (call.body : Body FreeStack StackReply π).run s = (.ok (s.reply call).1, (s.reply call).2) := by
  cases call with
  | available => rfl
  | pop =>
    by_cases hlt : s.head < s.slots.size
    · simp [body, Body.read, Body.write, Body.run, FreeStack.reply, FreeStack.pop, hlt]
    · simp [body, Body.read, Body.run, FreeStack.reply, FreeStack.pop, hlt]
  | push va =>
    by_cases hzero : s.head = 0
    · simp [body, Body.read, Body.run, FreeStack.reply, FreeStack.push, FreeStack.refusal?, hzero]
    · by_cases hpast : s.capacity < s.head
      · simp [body, Body.read, Body.run, FreeStack.reply, FreeStack.push, FreeStack.refusal?, hzero,
          hpast]
      · simp [body, Body.read, Body.write, Body.run, FreeStack.reply, FreeStack.push,
          FreeStack.refusal?, FreeStack.put, hzero, hpast]

/-! ### Sections take turns -/

namespace Gate

variable {α β π : Type}

/-- **Serial sections**: threads gather at an open gate, each with its bodies to run, and take steps
in any order.  At every moment at most one is inside, the gate is closed just when one is, and all
can still come to an end.  When they have, the gate is open, each thread has come in once for each
of its bodies, and running the bodies one after the other, each in one go and in the order in which
the threads came in, leaves the same value and gives every thread the same answers.  In particular,
the replies of a stack that threads share are its replies to their calls in that order. -/
theorem sections_serialised (value : α) (programs : List (List (Body α β π))) (stack : FreeStack)
    (calls : List (List StackCall)) (schedule : List Nat) :
    (let c := (Crowd.gathered value programs).steps schedule
     (∀ (i j : Nat) (t u : Thread α β π), c.threads[i]? = some t → c.threads[j]? = some u →
        t.isInside = true → u.isInside = true → j = i) ∧
      (c.gate.closed = true ↔ ∃ t ∈ c.threads, t.isInside = true) ∧
      (∃ more, (c.steps more).isDone = true) ∧
      (c.isDone = true →
        c.gate.closed = false ∧
        (∀ (i : Nat) (bodies : List (Body α β π)), programs[i]? = some bodies →
          c.entered.count i = bodies.length) ∧
        (∀ i ∈ c.entered, i < programs.length) ∧
        ∃ turns, (Turns.ofCalls value programs).inOrder? Body.run c.entered = some turns ∧
          c.gate.value = turns.value ∧
          c.threads.map (·.answers) = turns.callers.map (·.replies))) ∧
    (let c := (Crowd.gathered stack (calls.map (List.map StackCall.body) :
        List (List (Body FreeStack StackReply π)))).steps schedule
     c.isDone = true →
      ∃ turns, (Turns.ofCalls stack calls).inOrder? (fun call s => s.reply call) c.entered
          = some turns ∧
        c.gate.value = turns.value ∧
        c.threads.map (·.answers) = turns.callers.map (·.replies.map .ok)) := by
  refine ⟨?_, ?_⟩
  · intro c
    have hfollows : Crowd.Follows (.ofCalls value programs) c :=
      (Crowd.Follows.gathered value programs).steps schedule
    refine ⟨fun i j t u => hfollows.alone, hfollows.closed_iff, hfollows.exists_isDone,
      fun hdone => ?_⟩
    obtain ⟨turns, took, hgate, hcallers, hcalls⟩ := hfollows.exists_turns_of_isDone hdone
    obtain ⟨hlt, hlength, hcount⟩ := Turns.count_order took
    refine ⟨congrArg Gate.closed hgate, fun i bodies hi => ?_, ?_, turns, took,
      congrArg Gate.value hgate, ?_⟩
    · -- no call is left of those that the thread began with
      have hi' : i < turns.callers.length := by
        rw [hlength, Turns.ofCalls, List.length_map]
        exact (List.getElem?_eq_some_iff.mp hi).1
      have hbegan : (Turns.ofCalls value programs : Turns α (Body α β π) (Except π β)).callers[i]?
          = some ⟨bodies, []⟩ := by
        rw [Turns.ofCalls, List.getElem?_map, hi]
        rfl
      have hall := hcount i ⟨bodies, []⟩ turns.callers[i] hbegan (List.getElem?_eq_getElem hi')
      rwa [hcalls _ (List.getElem_mem hi'), List.length_nil, Nat.zero_add] at hall
    · simpa [Turns.ofCalls] using hlt
    · rw [← hcallers, List.map_map]
      rfl
  · intro c hdone
    have hfollows := (Crowd.Follows.gathered stack
      (calls.map (List.map StackCall.body) : List (List (Body FreeStack StackReply π)))).steps
        schedule
    obtain ⟨turns, took, hgate, hcallers, -⟩ := hfollows.exists_turns_of_isDone hdone
    -- turns of bodies are turns of the calls that the bodies come to
    rw [← Turns.rename_ofCalls StackCall.body .ok, Turns.inOrder?_rename StackCall.run_body] at took
    obtain ⟨replied, htook, rfl⟩ := Option.map_eq_some_iff.mp took
    refine ⟨replied, htook, congrArg Gate.value hgate, ?_⟩
    have hreplies := congrArg (List.map Caller.replies) hcallers
    rw [List.map_map, Turns.rename, List.map_map] at hreplies
    exact hreplies

/-- Two threads take steps by turns, so that each has to wait for the other, and the second one
panics after it has changed the value.  On a stack, the second thread returns a buffer while the
first one takes it and counts. -/
theorem sections_serialised_alternating :
    let programs : List (List (Body Nat Nat String)) :=
      [[.use (· + 1) fun _ => .use (· * 2) fun value => .finish (.ok value)],
        [.use (· + 10) fun _ => .finish (.error "late")]]
    let calls : List (List StackCall) := [[.pop, .available], [.push ⟨8192⟩]]
    let c := (Crowd.gathered 3 programs).steps (List.replicate 20 [0, 1]).flatten
    let d := (Crowd.gathered ⟨#[⟨8192⟩, ⟨4096⟩], 0⟩ (calls.map (List.map StackCall.body) :
      List (List (Body FreeStack StackReply String)))).steps (List.replicate 20 [0, 1]).flatten
    c.isDone = true ∧ d.isDone = true ∧ c.gate.closed = false ∧
      (∃ turns, (Turns.ofCalls 3 programs).inOrder? Body.run c.entered = some turns ∧
        c.gate.value = turns.value ∧
        c.threads.map (·.answers) = turns.callers.map (·.replies)) ∧
      ∃ turns, (Turns.ofCalls ⟨#[⟨8192⟩, ⟨4096⟩], 0⟩ calls).inOrder? (fun call s => s.reply call)
          d.entered = some turns ∧
        d.gate.value = turns.value ∧
        d.threads.map (·.answers) = turns.callers.map (·.replies.map .ok) := by
  intro programs calls
  obtain ⟨⟨-, -, -, hserial⟩, hstack⟩ := sections_serialised 3 programs ⟨#[⟨8192⟩, ⟨4096⟩], 0⟩ calls
    (List.replicate 20 [0, 1]).flatten
  refine ⟨?crowd, ?stack, (hserial ?crowd).1, (hserial ?crowd).2.2.2, hstack ?stack⟩
  case crowd => decide +kernel
  case stack => decide +kernel

end Gate

end HugePool
