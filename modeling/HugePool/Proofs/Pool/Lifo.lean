import HugePool.Proofs.Pool.Custody
import HugePool.Proofs.Pool.Translation

/-!
# The free buffers of a pool as a stack

A pool does not look at the addresses that it is given back.  Whatever they are, it behaves as a
stack of limited height: `Lifo.Step` says how such a stack answers one call, and `Lifo.Run` how it
answers a sequence of calls.  The top of the stack is handed out with its bus address if it lies in
one of the huge pages; otherwise the client who asked for it panics, and the address is gone.

* `FreeStack.pop_of_toList_eq_cons`, `FreeStack.push_of_lt` and their counterparts: what the slots
  do is told by the list that they stand for, as long as `head` is not past their end.
* `Pool.Restacked.step_serve`: one call is a step of the stack, from the list before it to the list
  after it, and keeps `head` where it may be.
* `Pool.serves_lifo`: hence any sequence of calls is a run of the stack.

The slots before `head` keep the addresses that were taken from them.  They never matter: the list
starts at `head`, and `push` writes the slot before it moves there.
-/

namespace HugePool

variable {κ : Type}

/-! ### The slots and their list -/

namespace FreeStack

variable {s : FreeStack}

theorem pop_of_toList_eq_nil (h : s.toList = []) : s.pop = .error .exhausted := by
  have hlen : s.toList.length = 0 := congrArg List.length h
  rw [length_toList, available, capacity] at hlen
  rw [pop, dif_neg (by omega)]

theorem pop_of_toList_eq_cons {top : VirtAddr} {rest : List VirtAddr} (h : s.toList = top :: rest) :
    ∃ s', s.pop = .ok (top, s') ∧ s'.toList = rest ∧ s'.capacity = s.capacity ∧
      s'.head ≤ s'.capacity := by
  have hlen : s.toList.length = rest.length + 1 := congrArg List.length h
  rw [length_toList, available, capacity] at hlen
  have hlt : s.head < s.slots.size := by omega
  have hpop : s.pop = .ok (s.slots[s.head], { s with head := s.head + 1 }) := by
    rw [pop, dif_pos hlt]
  -- the list tells what is in the first slot
  have hlist := toList_pop hpop
  rw [h, List.cons.injEq] at hlist
  refine ⟨{ s with head := s.head + 1 }, ?_, hlist.2.symm, rfl, hlt⟩
  rw [hpop, hlist.1]

theorem push_of_le (va : VirtAddr) (hle : s.head ≤ s.capacity)
    (h : s.capacity ≤ s.toList.length) : s.push va = .error .full := by
  rw [length_toList, available] at h
  -- an empty stack of no slots at all is full as well
  have hzero : s.head = 0 := by
    by_contra hne
    omega
  rw [push, refusal?, if_pos hzero]

theorem push_of_lt (va : VirtAddr) (hle : s.head ≤ s.capacity)
    (h : s.toList.length < s.capacity) :
    ∃ s', s.push va = .ok s' ∧ s'.toList = va :: s.toList ∧ s'.capacity = s.capacity ∧
      s'.head ≤ s'.capacity := by
  rw [length_toList, available] at h
  have hnone : s.refusal? = none := refusal?_eq_none_iff.mpr ⟨by omega, hle⟩
  have hpush : s.push va = .ok (s.put va) := by
    rw [push, hnone]
  have hcapacity : (s.put va).capacity = s.capacity := Array.size_setIfInBounds
  refine ⟨s.put va, hpush, toList_push hpush, hcapacity, ?_⟩
  rw [hcapacity]
  exact (Nat.sub_le s.head 1).trans hle

end FreeStack

/-! ### Calls -/

/-- What a client hears: the buffer that was taken, or that one was returned. -/
abbrev Answer := Outcome StackError (Option Buffer)

namespace Pool

/-- How a pool answers a call, and what the call leaves. -/
def serve (pool : Pool) : Call κ → Answer × Pool
  | .allocate _ =>
    let t := allocate.run pool
    (some <$> t.outcome, t.state)
  | .giveBack _ va =>
    let t := (giveBack va).run pool
    ((fun _ => none) <$> t.outcome, t.state)

/-- How a pool answers calls that come one after the other, and what they leave.  A client that
panics leaves the pool to the others. -/
def serveAll (pool : Pool) : List (Call κ) → List Answer × Pool
  | [] => ([], pool)
  | call :: rest =>
    let (answer, left) := pool.serve call
    let (answers, last) := left.serveAll rest
    (answer :: answers, last)

end Pool

/-! ### Stacks of limited height -/

namespace Lifo

/-- How a stack of at most `capacity` addresses answers a call, and what it is after it.  The huge
pages that the addresses may lie in are those of `pool`. -/
inductive Step (pool : Pool) (capacity : Nat) :
    List VirtAddr → Call κ → Answer → List VirtAddr → Prop where
  | exhausted (client : κ) : Step pool capacity [] (.allocate client) (.error .exhausted) []
  | taken (client : κ) (top : VirtAddr) (bus : BusAddr) (rest : List VirtAddr)
      (inside : ∃ r ∈ pool.hugePages, top.toNat ∈ r.virtSpan) (seen : pool.toBus? top = some bus) :
    Step pool capacity (top :: rest) (.allocate client)
      (.ok (some ⟨top, bus, pool.geometry.bufferSize⟩)) rest
  | stray (client : κ) (top : VirtAddr) (rest : List VirtAddr)
      (outside : ∀ r ∈ pool.hugePages, top.toNat ∉ r.virtSpan) :
    Step pool capacity (top :: rest) (.allocate client) (.panic (.directoryCorrupt pool.name)) rest
  | full (client : κ) (va : VirtAddr) (stack : List VirtAddr) (height : capacity ≤ stack.length) :
    Step pool capacity stack (.giveBack client va) (.error .full) stack
  | returned (client : κ) (va : VirtAddr) (stack : List VirtAddr)
      (height : stack.length < capacity) :
    Step pool capacity stack (.giveBack client va) (.ok none) (va :: stack)

/-- How such a stack answers calls that come one after the other. -/
inductive Run (pool : Pool) (capacity : Nat) :
    List VirtAddr → List (Call κ) → List Answer → List VirtAddr → Prop where
  | nil (stack : List VirtAddr) : Run pool capacity stack [] [] stack
  | cons {stack middle last : List VirtAddr} {call : Call κ} {rest : List (Call κ)}
      {answer : Answer} {answers : List Answer}
      (first : Step pool capacity stack call answer middle)
      (others : Run pool capacity middle rest answers last) :
    Run pool capacity stack (call :: rest) (answer :: answers) last

variable {pool : Pool} {capacity : Nat} {stack last : List VirtAddr}

/-- A stack has no state that it would call inconsistent. -/
theorem Step.ne_corrupted {call : Call κ} {answer : Answer}
    (h : Step pool capacity stack call answer last) (head slots : Nat) :
    answer ≠ .error (.corrupted head slots) := by
  cases h <;> exact nofun

theorem Run.ne_corrupted {calls : List (Call κ)} {answers : List Answer}
    (h : Run pool capacity stack calls answers last) :
    ∀ answer ∈ answers, ∀ head slots, answer ≠ .error (.corrupted head slots) := by
  induction h with
  | nil stack => exact List.forall_mem_nil _
  | cons first _ ih => exact List.forall_mem_cons.mpr ⟨first.ne_corrupted, ih⟩

end Lifo

/-! ### One call -/

namespace Pool

/-- An address that no page has is one that the device does not see. -/
theorem toBus?_eq_none_iff {pool : Pool} {va : VirtAddr} :
    pool.toBus? va = none ↔ ∀ r ∈ pool.hugePages, va.toNat ∉ r.virtSpan := by
  rw [toBus?, PageTable.toBus?, List.findSome?_eq_none_iff]
  simp only [← PageRecord.toBus?_isSome_iff, Bool.not_eq_true, Option.isSome_eq_false_iff,
    Option.isNone_iff_eq_none]
  rfl

theorem exists_page_of_toBus? {pool : Pool} {va : VirtAddr} {bus : BusAddr}
    (h : pool.toBus? va = some bus) : ∃ r ∈ pool.hugePages, va.toNat ∈ r.virtSpan := by
  obtain ⟨r, hr, hbus⟩ := List.exists_of_findSome?_eq_some h
  exact ⟨r, hr, (PageRecord.mem_spans_of_toBus? hbus).1⟩

section

variable {c : Pool} {free : FreeStack} {top va : VirtAddr} (client : κ)

theorem serve_of_empty (h : c.free.toList = []) :
    c.serve (.allocate client) = (.error .exhausted, c) := by
  show (some <$> (allocate c).outcome, (allocate c).state) = _
  rw [allocate, FreeStack.pop_of_toList_eq_nil h]
  rfl

theorem serve_of_seen (hpop : c.free.pop = .ok (top, free)) {bus : BusAddr}
    (hbus : c.toBus? top = some bus) :
    c.serve (.allocate client) =
      (.ok (some ⟨top, bus, c.geometry.bufferSize⟩), { c with free := free }) := by
  show (some <$> (allocate c).outcome, (allocate c).state) = _
  simp only [allocate, hpop, hbus]
  rfl

/-- The address is gone, although nobody has got it. -/
theorem serve_of_stray (hpop : c.free.pop = .ok (top, free)) (hbus : c.toBus? top = none) :
    c.serve (.allocate client) = (.panic (.directoryCorrupt c.name), { c with free := free }) := by
  show (some <$> (allocate c).outcome, (allocate c).state) = _
  simp only [allocate, hpop, hbus]
  rfl

theorem serve_of_pushed (hpush : c.free.push va = .ok free) :
    c.serve (.giveBack client va) = (.ok none, { c with free := free }) := by
  rw [serve, run_giveBack, hpush]
  rfl

theorem serve_of_refused {cause : StackError} (hpush : c.free.push va = .error cause) :
    c.serve (.giveBack client va) = (.error cause, c) := by
  rw [serve, run_giveBack, hpush]
  rfl

end

/-- A pool with other addresses on its free stack. -/
structure Restacked (pool c : Pool) : Prop where
  frame : c = { pool with free := c.free }
  capacity : c.free.capacity = pool.free.capacity
  head_le : c.free.head ≤ c.free.capacity

namespace Restacked

variable {pool c : Pool}

theorem refl (h : pool.free.head ≤ pool.free.capacity) : Restacked pool pool := ⟨rfl, rfl, h⟩

/-- The stack may be exchanged for another one of the same height. -/
theorem with_free (h : Restacked pool c) {free : FreeStack}
    (hcapacity : free.capacity = c.free.capacity) (hhead : free.head ≤ free.capacity) :
    Restacked pool { c with free := free } where
  frame := by rw [h.frame]
  capacity := hcapacity.trans h.capacity
  head_le := hhead

theorem head_le_capacity (h : Restacked pool c) : c.free.head ≤ pool.free.capacity :=
  h.capacity ▸ h.head_le

/-- The calls before have not changed what the device sees. -/
theorem toBus?_eq (h : Restacked pool c) (va : VirtAddr) : c.toBus? va = pool.toBus? va := by
  rw [h.frame]
  rfl

theorem intact (h : Restacked pool c) (hintact : pool.Intact) : c.Intact := by
  rw [h.frame]
  exact ⟨hintact.sound, hintact.aligned, hintact.recorded, hintact.base, hintact.pages⟩

/-- **One call**: a pool answers as the stack of its free buffers does. -/
theorem step_serve (h : Restacked pool c) (call : Call κ) :
    Lifo.Step pool pool.free.capacity c.free.toList call (c.serve call).1
      (c.serve call).2.free.toList ∧ Restacked pool (c.serve call).2 := by
  cases call with
  | allocate client =>
    cases hlist : c.free.toList with
    | nil =>
      rw [serve_of_empty client hlist, hlist]
      exact ⟨.exhausted client, h⟩
    | cons top rest =>
      obtain ⟨free, hpop, hrest, hcapacity, hhead⟩ := FreeStack.pop_of_toList_eq_cons hlist
      have hleft := h.with_free hcapacity hhead
      have hview := h.toBus?_eq top
      rw [← hrest]
      cases hbus : pool.toBus? top with
      | some bus =>
        rw [serve_of_seen client hpop (hview.trans hbus)]
        refine ⟨?_, hleft⟩
        have hsize : c.geometry.bufferSize = pool.geometry.bufferSize := by rw [h.frame]
        rw [hsize]
        exact .taken client top bus _ (exists_page_of_toBus? hbus) hbus
      | none =>
        rw [serve_of_stray client hpop (hview.trans hbus)]
        refine ⟨?_, hleft⟩
        have hname : c.name = pool.name := by rw [h.frame]
        rw [hname]
        exact .stray client top _ (toBus?_eq_none_iff.mp hbus)
  | giveBack client va =>
    rw [← h.capacity]
    rcases Nat.lt_or_ge c.free.toList.length c.free.capacity with hlt | hle
    · obtain ⟨free, hpush, hlist, hcapacity, hhead⟩ := FreeStack.push_of_lt va h.head_le hlt
      rw [serve_of_pushed client hpush]
      refine ⟨?_, h.with_free hcapacity hhead⟩
      show Lifo.Step _ _ _ _ _ free.toList
      rw [hlist]
      exact .returned client va _ hlt
    · rw [serve_of_refused client (FreeStack.push_of_le va h.head_le hle)]
      exact ⟨.full client va _ hle, h⟩

/-- What one call does, any number of calls do. -/
theorem run_serveAll (h : Restacked pool c) (calls : List (Call κ)) :
    Lifo.Run pool pool.free.capacity c.free.toList calls (c.serveAll calls).1
      (c.serveAll calls).2.free.toList ∧ Restacked pool (c.serveAll calls).2 := by
  -- on the calls, with the pool that the calls before have left
  induction calls generalizing c with
  | nil => exact ⟨.nil _, h⟩
  | cons call rest ih =>
    obtain ⟨hstep, hleft⟩ := h.step_serve call
    obtain ⟨hrun, hlast⟩ := ih hleft
    exact ⟨.cons hstep hrun, hlast⟩

end Restacked

/-- Calls change nothing but the stack of a pool that was made. -/
theorem restacked_of_create {σ : Type} {context : Context σ} {config : Config} {s : σ} {pool : Pool}
    (hcreate : ((context.createPool config).run s).outcome = .ok pool) (calls : List (Call κ)) :
    Restacked pool (pool.serveAll calls).2 := by
  obtain ⟨-, -, -, -, hhead, -⟩ := create_eq_ok hcreate
  have hnew : Restacked pool pool := .refl (hhead ▸ Nat.zero_le _)
  exact (hnew.run_serveAll calls).2

/-- **Last in, first out**: whatever addresses clients give back to a pool that was made, it answers
as a stack of its buffers' number, on which the buffers lay in order at first, and what is available
is what lies on the stack.  Nothing else of the pool changes. -/
theorem serves_lifo {σ : Type} {context : Context σ} {config : Config} {s : σ} {pool : Pool}
    (hcreate : ((context.createPool config).run s).outcome = .ok pool) (calls : List (Call κ)) :
    let n := config.bufferCount.toNat
    let answers := (pool.serveAll calls).1
    let left := (pool.serveAll calls).2
    (pool.free.toList.map Address.toNat = (List.range n).map fun i =>
      pool.baseVirtual.toNat + i * pool.geometry.bufferSize.toNat) ∧
    Lifo.Run pool n pool.free.toList calls answers left.free.toList ∧
    left.available = left.free.toList.length ∧ left.free.head ≤ n ∧
    left = { pool with free := left.free } ∧
    ∀ answer ∈ answers, ∀ head slots, answer ≠ .error (.corrupted head slots) := by
  intro n answers left
  obtain ⟨-, -, -, -, hhead, -⟩ := create_eq_ok hcreate
  have hcapacity : pool.free.capacity = n := Custody.capacity_of_create hcreate
  have hlist : pool.free.toList = pool.free.slots.toList := by
    rw [FreeStack.toList, hhead, List.drop_zero]
  have hnew : Restacked pool pool := .refl (hhead ▸ Nat.zero_le _)
  obtain ⟨hrun, hleft⟩ := hnew.run_serveAll calls
  rw [hcapacity] at hrun
  have hslots := Custody.slots_of_create hcreate
  rw [← hlist] at hslots
  exact ⟨hslots, hrun, left.free.length_toList.symm, hcapacity ▸ hleft.head_le_capacity,
    hleft.frame, hrun.ne_corrupted⟩

/-- Foreign and repeated returns to a pool of two buffers.  The stray address comes back out after
the buffer that was returned later, and the client who asks for it panics. -/
theorem serves_lifo_stray :
    let calls : List (Call Nat) :=
      [.giveBack 1 ⟨8⟩, .allocate 1, .allocate 1, .allocate 2, .giveBack 2 ⟨8⟩,
        .giveBack 2 ⟨4294971456⟩, .giveBack 2 ⟨4294971456⟩, .allocate 1, .allocate 1, .allocate 1]
    let first : Answer := .ok (some ⟨⟨4294971392⟩, ⟨4294971392⟩, 64⟩)
    let second : Answer := .ok (some ⟨⟨4294971456⟩, ⟨4294971456⟩, 64⟩)
    ∃ pool,
      ((Context.createPool ⟨Script.platform {}, none⟩ ⟨"rx", {}, 64, 2, 64⟩).run
        (Script.start {})).outcome = .ok pool ∧
      Lifo.Run pool 2 [⟨4294971392⟩, ⟨4294971456⟩] calls
        [.error .full, first, second, .error .exhausted, .ok none, .ok none, .error .full, second,
          .panic (.directoryCorrupt "rx"), .error .exhausted] [] := by
  intro calls first second
  obtain ⟨pool, hcreate, hlist, hanswers, hleft⟩ : ∃ pool,
      ((Context.createPool ⟨Script.platform {}, none⟩ ⟨"rx", {}, 64, 2, 64⟩).run
        (Script.start {})).outcome = .ok pool ∧
      pool.free.toList = [⟨4294971392⟩, ⟨4294971456⟩] ∧
      (pool.serveAll calls).1 = [.error .full, first, second, .error .exhausted, .ok none, .ok none,
        .error .full, second, .panic (.directoryCorrupt "rx"), .error .exhausted] ∧
      (pool.serveAll calls).2.free.toList = [] := ⟨_, rfl, rfl, rfl, rfl⟩
  have hrun := (serves_lifo hcreate calls).2.1
  rw [hlist, hanswers, hleft] at hrun
  exact ⟨pool, hcreate, hrun⟩

end Pool

end HugePool
