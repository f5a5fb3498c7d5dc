import HugePool.Gate.Interleaving

/-!
# Threads at a gate take turns

However the steps of threads at a gate are mixed, the threads do what they would have done one body
at a time.  `Turns` is this other way to run them: a value and callers, of whom one at a time makes
a whole call (`Turns.inOrder?`).

* `Thread.Stepped` lists what one step of a thread can be: it idles, enters, works, or leaves.
* `Crowd.Follows` relates a crowd to turns.  Either nobody is inside, and value and threads are
  those that the turns have left; or one thread is inside, and its body is about to end as it would
  end if it were run in one go on the value that the turns before it have left (`Place.ending?`).
* `Crowd.Follows.step`, `Crowd.Follows.steps`: a step, and so every schedule, keeps this relation.
* `Crowd.Follows.exists_isDone`: from every crowd that was reached all bodies can still be run.

Why others do no harm is in the second case of the relation: while a thread is inside the gate is
closed, and at a closed gate a thread that is outside can do no more than look and wait.
-/

namespace HugePool

/-! ### Callers who take turns -/

/-- Someone who makes calls, with the replies to those that were made. -/
structure Caller (κ ρ : Type) where
  calls : List κ
  replies : List ρ := []

/-- A value, and callers who use it one call at a time. -/
structure Turns (α κ ρ : Type) where
  value : α
  callers : List (Caller κ ρ)

namespace Turns

variable {α κ κ' ρ ρ' : Type}

/-- Callers who have made none of their calls yet. -/
def ofCalls (value : α) (calls : List (List κ)) : Turns α κ ρ :=
  ⟨value, calls.map fun calls => { calls := calls }⟩

/-- The next call of caller number `i`, if he has one left. -/
def next? (serve : κ → α → ρ × α) (t : Turns α κ ρ) (i : Nat) : Option (Turns α κ ρ) :=
  match t.callers[i]? with
  | some ⟨call :: rest, replies⟩ =>
    some ⟨(serve call t.value).2, t.callers.set i ⟨rest, replies ++ [(serve call t.value).1]⟩⟩
  | _ => none

/-- One call of each caller who is named, in that order, if all of them have one left. -/
def inOrder? (serve : κ → α → ρ × α) (t : Turns α κ ρ) (order : List Nat) : Option (Turns α κ ρ) :=
  order.foldlM (next? serve) t

variable {serve : κ → α → ρ × α} {t t' : Turns α κ ρ}

theorem next?_eq_some_iff {i : Nat} : t.next? serve i = some t' ↔
    ∃ call rest replies, t.callers[i]? = some ⟨call :: rest, replies⟩ ∧
      t' = ⟨(serve call t.value).2,
        t.callers.set i ⟨rest, replies ++ [(serve call t.value).1]⟩⟩ := by
  unfold next?
  split
  · rename_i call rest replies hcaller
    constructor
    · intro h
      exact ⟨call, rest, replies, hcaller, (Option.some.inj h).symm⟩
    · rintro ⟨call', rest', replies', hcaller', rfl⟩
      cases Option.some.inj (hcaller.symm.trans hcaller')
      rfl
  · rename_i hnone
    constructor
    · exact nofun
    · rintro ⟨call, rest, replies, hcaller, -⟩
      exact (hnone call rest replies hcaller).elim

theorem inOrder?_concat {order : List Nat} {i : Nat} (h : t.inOrder? serve order = some t') :
    t.inOrder? serve (order ++ [i]) = t'.next? serve i := by
  unfold inOrder? at *
  rw [List.foldlM_append, h]
  exact bind_pure (t'.next? serve i)

/-- A call that is made is one of those that were left. -/
theorem count_order {order : List Nat} (h : t.inOrder? serve order = some t') :
    (∀ i ∈ order, i < t.callers.length) ∧ t'.callers.length = t.callers.length ∧
    ∀ (i : Nat) (caller caller' : Caller κ ρ), t.callers[i]? = some caller →
      t'.callers[i]? = some caller' →
      caller'.calls.length + order.count i = caller.calls.length := by
  induction order generalizing t with
  | nil =>
    cases Option.some.inj h
    refine ⟨List.forall_mem_nil _, rfl, fun i caller caller' hcaller hcaller' => ?_⟩
    rw [Option.some.inj (hcaller.symm.trans hcaller')]
    rfl
  | cons i order ih =>
    obtain ⟨middle, hnext, hrest⟩ := Option.bind_eq_some_iff.mp h
    obtain ⟨call, rest, replies, hcaller, rfl⟩ := next?_eq_some_iff.mp hnext
    obtain ⟨hlt, hlength, hcount⟩ := ih hrest
    rw [List.length_set] at hlength hlt
    have hi : i < t.callers.length := (List.getElem?_eq_some_iff.mp hcaller).1
    refine ⟨List.forall_mem_cons.mpr ⟨hi, hlt⟩, hlength, fun j before after hbefore hafter => ?_⟩
    by_cases hj : i = j
    · subst hj
      have hleft : after.calls.length + order.count i = rest.length :=
        hcount i ⟨rest, _⟩ after (List.getElem?_set_self hi) hafter
      rw [List.count_cons_self, ← Option.some.inj (hcaller.symm.trans hbefore), ← Nat.add_assoc,
        hleft, List.length_cons]
    · rw [List.count_cons_of_ne hj]
      exact hcount j before after ((List.getElem?_set_ne hj).trans hbefore) hafter

/-- The same callers with other names for their calls and replies. -/
def rename (call : κ → κ') (reply : ρ → ρ') (t : Turns α κ ρ) : Turns α κ' ρ' :=
  ⟨t.value, t.callers.map fun caller => ⟨caller.calls.map call, caller.replies.map reply⟩⟩

theorem rename_ofCalls (call : κ → κ') (reply : ρ → ρ') (value : α) (calls : List (List κ)) :
    (ofCalls value calls : Turns α κ ρ).rename call reply
      = ofCalls value (calls.map (List.map call)) := by
  simp [rename, ofCalls]

/-- Turns do not depend on what calls and replies are called. -/
theorem inOrder?_rename {serve' : κ' → α → ρ' × α} {call : κ → κ'} {reply : ρ → ρ'}
    (hserve : ∀ k value, serve' (call k) value = (reply (serve k value).1, (serve k value).2))
    (order : List Nat) :
    (t.rename call reply).inOrder? serve' order
      = (t.inOrder? serve order).map (rename call reply) := by
  have hnext : ∀ (t : Turns α κ ρ) (i : Nat),
      (t.rename call reply).next? serve' i = (t.next? serve i).map (rename call reply) := by
    intro t i
    unfold next? rename
    rw [List.getElem?_map]
    rcases t.callers[i]? with _ | ⟨_ | ⟨k, rest⟩, replies⟩
    · rfl
    · rfl
    · simp [hserve, List.map_set]
  unfold inOrder?
  induction order generalizing t with
  | nil => rfl
  | cons i order ih =>
    rw [List.foldlM_cons, List.foldlM_cons, hnext]
    cases t.next? serve i with
    | none => rfl
    | some middle => exact ih

end Turns

namespace Gate

variable {α β π : Type}

/-! ### Steps of a thread -/

/-- How the body that a thread is in ends, and the value that it leaves, if nobody interferes. -/
def Place.ending? : Place α β π → α → Option (Except π β × α)
  | .outside, _ => none
  | .waiting, _ => none
  | .inside rest, value => some (rest.run value)
  | .leaving answer, value => some (answer, value)

namespace Thread

/-- The thread has closed the gate and not opened it again. -/
def isInside (t : Thread α β π) : Bool :=
  match t.place with
  | .outside => false
  | .waiting => false
  | .inside _ => true
  | .leaving _ => true

/-- The thread as someone who makes calls. -/
def caller (t : Thread α β π) : Caller (Body α β π) (Except π β) := ⟨t.bodies, t.answers⟩

theorem isSome_ending? (t : Thread α β π) (value : α) :
    (t.place.ending? value).isSome = t.isInside := by
  unfold isInside Place.ending?
  cases t.place <;> rfl

/-- What one step of a thread can be: the gate and the thread after it, and whether it came in. -/
inductive Stepped (g : Gate α) (t : Thread α β π) : Gate α × Thread α β π × Bool → Prop where
  /-- It stays outside, or waits. -/
  | idles (place : Place α β π) (before : t.isInside = false)
      (after : { t with place := place }.isInside = false) :
    Stepped g t (g, { t with place := place }, false)
  | enters (body : Body α β π) (rest : List (Body α β π)) (outside : t.isInside = false)
      (bodies_eq : t.bodies = body :: rest) (isOpen : g.closed = false) :
    Stepped g t (⟨true, g.value⟩, { t with place := .inside body }, true)
  /-- It goes on in its body, or comes to the end of it. -/
  | works (value : α) (place : Place α β π) (ending : Except π β × α)
      (before : t.place.ending? g.value = some ending) (after : place.ending? value = some ending) :
    Stepped g t ({ g with value := value }, { t with place := place }, false)
  | leaves (answer : Except π β) (place_eq : t.place = .leaving answer) :
    Stepped g t (g.reopen, ⟨.outside, t.bodies.tail, t.answers ++ [answer]⟩, false)

theorem stepped (g : Gate α) (t : Thread α β π) : t.Stepped g (Crowd.stepThread g t) := by
  rcases t with ⟨place, bodies, answers⟩
  cases place with
  | outside =>
    cases bodies with
    | nil => exact .idles .outside rfl rfl
    | cons body rest =>
      cases hgate : g.closed with
      | true =>
        simp only [Crowd.stepThread, tryClose, hgate, if_true]
        exact .idles .waiting rfl rfl
      | false =>
        simp only [Crowd.stepThread, tryClose, hgate, Bool.false_eq_true, if_false]
        exact .enters body rest rfl rfl hgate
  | waiting =>
    cases hgate : g.closed with
    | true =>
      simp only [Crowd.stepThread, hgate, if_true]
      exact .idles .waiting rfl rfl
    | false =>
      simp only [Crowd.stepThread, hgate, Bool.false_eq_true, if_false]
      exact .idles .outside rfl rfl
  | inside rest =>
    cases rest with
    | finish answer => exact .works g.value (.leaving answer) (answer, g.value) rfl rfl
    | use change next => exact .works (change g.value) (.inside (next g.value)) _ rfl rfl
  | leaving answer => exact .leaves answer rfl

end Thread

namespace Crowd

/-- Threads that have not begun, at an open gate. -/
def gathered (value : α) (programs : List (List (Body α β π))) : Crowd α β π :=
  { gate := ofValue value, threads := programs.map fun bodies => { bodies := bodies } }

section

variable {c : Crowd α β π} {i : Nat} {t : Thread α β π}

theorem step_of_getElem? (h : c.threads[i]? = some t) :
    c.step i = ⟨(stepThread c.gate t).1, c.threads.set i (stepThread c.gate t).2.1,
      if (stepThread c.gate t).2.2 then c.entered ++ [i] else c.entered⟩ := by
  rw [step, h]

theorem steps_append (c : Crowd α β π) (first second : List Nat) :
    c.steps (first ++ second) = (c.steps first).steps second := List.foldl_append

/-- A step changes nothing about the calls that are still to be made. -/
theorem map_caller_set (h : c.threads[i]? = some t) (place : Place α β π) :
    (c.threads.set i { t with place := place }).map Thread.caller
      = c.threads.map Thread.caller := by
  apply List.ext_getElem?
  intro j
  rw [List.getElem?_map, List.getElem?_map]
  by_cases hj : i = j
  · subst hj
    rw [List.getElem?_set_self (List.getElem?_eq_some_iff.mp h).1, h]
    rfl
  · rw [List.getElem?_set_ne hj]

end

/-! ### Crowds and turns -/

/-- A crowd has come to where callers who take turns come from `start`, in the order in which the
threads came in.  If a thread is inside, its turn is the last one and has not ended yet. -/
inductive Follows (start : Turns α (Body α β π) (Except π β)) (c : Crowd α β π) : Prop where
  | free (turns : Turns α (Body α β π) (Except π β))
      (took : start.inOrder? Body.run c.entered = some turns)
      (gate_eq : c.gate = ofValue turns.value)
      (callers_eq : c.threads.map Thread.caller = turns.callers)
      (nobody : ∀ t ∈ c.threads, t.isInside = false)
  | taken (turns : Turns α (Body α β π) (Except π β)) (before : List Nat) (holder : Nat)
      (t : Thread α β π) (body : Body α β π) (rest : List (Body α β π))
      (entered_eq : c.entered = before ++ [holder])
      (took : start.inOrder? Body.run before = some turns) (isClosed : c.gate.closed = true)
      (callers_eq : c.threads.map Thread.caller = turns.callers)
      (present : c.threads[holder]? = some t) (bodies_eq : t.bodies = body :: rest)
      (ending_eq : t.place.ending? c.gate.value = some (body.run turns.value))
      (alone : ∀ j u, c.threads[j]? = some u → j ≠ holder → u.isInside = false)

namespace Follows

variable {start : Turns α (Body α β π) (Except π β)} {c : Crowd α β π}

theorem gathered (value : α) (programs : List (List (Body α β π))) :
    Follows (.ofCalls value programs) (gathered value programs) := by
  refine .free (.ofCalls value programs) rfl rfl ?_ ?_
  · simp only [Crowd.gathered, Turns.ofCalls, List.map_map]
    rfl
  · intro t ht
    obtain ⟨bodies, -, rfl⟩ := List.mem_map.mp ht
    rfl

/-- A step of a thread that stays out of the gate. -/
theorem idle (h : Follows start c) {i : Nat} {t : Thread α β π} (hget : c.threads[i]? = some t)
    {place : Place α β π} (hbefore : t.isInside = false)
    (hafter : { t with place := place }.isInside = false) :
    Follows start { c with threads := c.threads.set i { t with place := place } } := by
  cases h with
  | free turns took gate_eq callers_eq nobody =>
    refine .free turns took gate_eq ((map_caller_set hget place).trans callers_eq) fun u hu => ?_
    rcases List.mem_or_eq_of_mem_set hu with hu | rfl
    · exact nobody u hu
    · exact hafter
  | taken turns before holder t' body rest entered_eq took isClosed callers_eq present bodies_eq
      ending_eq alone =>
    have hne : i ≠ holder := by
      rintro rfl
      rw [Option.some.inj (hget.symm.trans present)] at hbefore
      rw [← t'.isSome_ending? c.gate.value, ending_eq] at hbefore
      exact Bool.noConfusion hbefore
    refine .taken turns before holder t' body rest entered_eq took isClosed
      ((map_caller_set hget place).trans callers_eq) ?_ bodies_eq ending_eq fun j u hu hj => ?_
    · rw [List.getElem?_set_ne hne]
      exact present
    · by_cases hij : i = j
      · subst hij
        rw [List.getElem?_set_self (List.getElem?_eq_some_iff.mp hget).1] at hu
        exact Option.some.inj hu ▸ hafter
      · rw [List.getElem?_set_ne hij] at hu
        exact alone j u hu hj

/-- Who is inside has a turn that has not ended. -/
theorem exists_turn (h : Follows start c) {i : Nat} {t : Thread α β π}
    (hget : c.threads[i]? = some t) (hinside : t.isInside = true) :
    ∃ turns before body rest, c.entered = before ++ [i] ∧
      start.inOrder? Body.run before = some turns ∧ c.gate.closed = true ∧
      c.threads.map Thread.caller = turns.callers ∧ t.bodies = body :: rest ∧
      t.place.ending? c.gate.value = some (body.run turns.value) ∧
      ∀ j u, c.threads[j]? = some u → j ≠ i → u.isInside = false := by
  cases h with
  | free turns took gate_eq callers_eq nobody =>
    rw [nobody t (List.mem_of_getElem? hget)] at hinside
    exact Bool.noConfusion hinside
  | taken turns before holder t' body rest entered_eq took isClosed callers_eq present bodies_eq
      ending_eq alone =>
    by_cases hi : i = holder
    · subst hi
      rw [Option.some.inj (hget.symm.trans present)]
      exact ⟨turns, before, body, rest, entered_eq, took, isClosed, callers_eq, bodies_eq,
        ending_eq, alone⟩
    · rw [alone i t hget hi] at hinside
      exact Bool.noConfusion hinside

/-- **One step**: whoever takes it, the crowd goes on as if threads took turns. -/
theorem step (h : Follows start c) (i : Nat) : Follows start (c.step i) := by
  cases hget : c.threads[i]? with
  | none =>
    rw [Crowd.step, hget]
    exact h
  | some t =>
    rw [step_of_getElem? hget]
    have hi : i < c.threads.length := (List.getElem?_eq_some_iff.mp hget).1
    have hstepped := t.stepped c.gate
    generalize stepThread c.gate t = after at hstepped
    cases hstepped with
    | idles place hbefore hafter => exact h.idle hget hbefore hafter
    | enters body rest houtside hbodies hopen =>
      cases h with
      | taken _ _ _ _ _ _ _ _ isClosed _ _ _ _ _ => rw [isClosed] at hopen; cases hopen
      | free turns took gate_eq callers_eq nobody =>
        -- the turn begins on the value that the turns before it have left
        refine .taken turns c.entered i { t with place := .inside body } body rest rfl took rfl
          ((map_caller_set hget _).trans callers_eq) (List.getElem?_set_self hi) hbodies ?_ ?_
        · show some (body.run c.gate.value) = _
          rw [gate_eq]
          rfl
        · intro j u hu hj
          rw [List.getElem?_set_ne hj.symm] at hu
          exact nobody u (List.mem_of_getElem? hu)
    | works value place ending hbefore hafter =>
      have hinside : t.isInside = true := by rw [← t.isSome_ending? c.gate.value, hbefore]; rfl
      obtain ⟨turns, before, body, rest, hentered, took, hclosed, hcallers, hbodies, hending,
        halone⟩ := h.exists_turn hget hinside
      refine .taken turns before i { t with place := place } body rest hentered took hclosed
        ((map_caller_set hget place).trans hcallers) (List.getElem?_set_self hi) hbodies ?_ ?_
      · show place.ending? value = _
        rw [hafter, ← hbefore, hending]
      · intro j u hu hj
        rw [List.getElem?_set_ne hj.symm] at hu
        exact halone j u hu hj
    | leaves answer hplace =>
      have hinside : t.isInside = true := by rw [Thread.isInside, hplace]
      obtain ⟨turns, before, body, rest, hentered, took, hclosed, hcallers, hbodies, hending,
        halone⟩ := h.exists_turn hget hinside
      -- the turn has ended as it does in one go
      have hrun : body.run turns.value = (answer, c.gate.value) := by
        rw [hplace] at hending
        exact (Option.some.inj hending).symm
      have hcaller : turns.callers[i]? = some ⟨body :: rest, t.answers⟩ := by
        rw [← hcallers, List.getElem?_map, hget, ← hbodies]
        rfl
      have hnext : turns.next? Body.run i = some ⟨c.gate.value,
          turns.callers.set i ⟨rest, t.answers ++ [answer]⟩⟩ := by
        refine Turns.next?_eq_some_iff.mpr ⟨body, rest, t.answers, hcaller, ?_⟩
        rw [hrun]
      refine .free ⟨c.gate.value, turns.callers.set i ⟨rest, t.answers ++ [answer]⟩⟩ ?_ rfl ?_ ?_
      · show start.inOrder? Body.run c.entered = some _
        rw [hentered, Turns.inOrder?_concat took]
        exact hnext
      · show (c.threads.set i _).map Thread.caller = _
        rw [List.map_set, hcallers, hbodies]
        rfl
      · intro u hu
        obtain ⟨j, hj⟩ := List.mem_iff_getElem?.mp hu
        by_cases hij : i = j
        · subst hij
          rw [List.getElem?_set_self hi] at hj
          rw [← Option.some.inj hj]
          rfl
        · rw [List.getElem?_set_ne hij] at hj
          exact halone j u hj (Ne.symm hij)

/-- What one step keeps, any schedule keeps. -/
theorem steps (h : Follows start c) (schedule : List Nat) : Follows start (c.steps schedule) := by
  induction schedule generalizing c with
  | nil => exact h
  | cons i rest ih => exact ih (h.step i)

/-- Nobody meets another inside, -/
theorem alone (h : Follows start c) {i j : Nat} {t u : Thread α β π} (ht : c.threads[i]? = some t)
    (hu : c.threads[j]? = some u) (htInside : t.isInside = true) (huInside : u.isInside = true) :
    j = i := by
  obtain ⟨-, -, -, -, -, -, -, -, -, -, halone⟩ := h.exists_turn ht htInside
  by_cases hj : j = i
  · exact hj
  · rw [halone j u hu hj] at huInside
    exact Bool.noConfusion huInside

/-- and the gate is closed while someone is inside, and only then. -/
theorem closed_iff (h : Follows start c) :
    c.gate.closed = true ↔ ∃ t ∈ c.threads, t.isInside = true := by
  constructor
  · intro hclosed
    cases h with
    | free turns took gate_eq callers_eq nobody =>
      rw [gate_eq] at hclosed
      cases hclosed
    | taken turns before holder t body rest entered_eq took isClosed callers_eq present bodies_eq
        ending_eq alone =>
      refine ⟨t, List.mem_of_getElem? present, ?_⟩
      rw [← t.isSome_ending? c.gate.value, ending_eq]
      rfl
  · rintro ⟨t, ht, hinside⟩
    obtain ⟨i, hget⟩ := List.mem_iff_getElem?.mp ht
    obtain ⟨-, -, -, -, -, -, hclosed, -⟩ := h.exists_turn hget hinside
    exact hclosed

/-- When all bodies have been run, the turns have been taken that the threads came in for. -/
theorem exists_turns_of_isDone (h : Follows start c) (hdone : c.isDone = true) :
    ∃ turns, start.inOrder? Body.run c.entered = some turns ∧ c.gate = ofValue turns.value ∧
      c.threads.map Thread.caller = turns.callers ∧
      ∀ caller ∈ turns.callers, caller.calls = [] := by
  have hempty : ∀ t ∈ c.threads, t.bodies = [] := fun t ht =>
    List.isEmpty_iff.mp (List.all_eq_true.mp hdone t ht)
  cases h with
  | taken turns before holder t body rest entered_eq took isClosed callers_eq present bodies_eq
      ending_eq alone =>
    have hnil := hempty t (List.mem_of_getElem? present)
    rw [bodies_eq] at hnil
    cases hnil
  | free turns took gate_eq callers_eq nobody =>
    refine ⟨turns, took, gate_eq, callers_eq, fun caller hcaller => ?_⟩
    rw [← callers_eq] at hcaller
    obtain ⟨t, ht, rfl⟩ := List.mem_map.mp hcaller
    exact hempty t ht

end Follows

/-! ### All bodies can be run -/

section

variable {c : Crowd α β π} {i : Nat} {t : Thread α β π}

/-- The number of bodies that threads still have to run. -/
def callsLeft (c : Crowd α β π) : Nat := (c.threads.flatMap (·.bodies)).length

theorem callsLeft_set_lt (hget : c.threads[i]? = some t) {body : Body α β π}
    {rest : List (Body α β π)} (hbodies : t.bodies = body :: rest) (g : Gate α)
    (answers : List (Except π β)) (entered : List Nat) :
    callsLeft ⟨g, c.threads.set i ⟨.outside, rest, answers⟩, entered⟩ < c.callsLeft := by
  unfold callsLeft
  induction hthreads : c.threads generalizing c i with
  | nil =>
    rw [hthreads] at hget
    cases hget
  | cons first others ih =>
    rw [hthreads] at hget
    cases i with
    | zero =>
      cases Option.some.inj hget
      simp [hbodies]
    | succ i =>
      have hothers := ih (c := ⟨g, others, entered⟩) hget rfl
      simpa using hothers

/-- The thread that is inside can go on to the end of its body, and open the gate. -/
theorem exists_steps_finish (hget : c.threads[i]? = some t) {answer : Except π β} {value : α}
    (hending : t.place.ending? c.gate.value = some (answer, value)) :
    ∃ more, c.steps more = ⟨ofValue value,
      c.threads.set i ⟨.outside, t.bodies.tail, t.answers ++ [answer]⟩, c.entered⟩ := by
  have hi : i < c.threads.length := (List.getElem?_eq_some_iff.mp hget).1
  rcases t with ⟨place, bodies, answers⟩
  cases place with
  | outside => cases hending
  | waiting => cases hending
  | leaving reply =>
    cases hending
    refine ⟨[i], ?_⟩
    rw [steps, List.foldl_cons, step_of_getElem? hget]
    rfl
  | inside rest =>
    -- what is left of the body grows shorter with each use
    induction rest generalizing c with
    | finish reply =>
      cases hending
      refine ⟨[i, i], ?_⟩
      rw [steps, List.foldl_cons, step_of_getElem? hget, List.foldl_cons,
        step_of_getElem? (List.getElem?_set_self hi)]
      simp only [stepThread, List.set_set]
      rfl
    | use change next ih =>
      have hstep : c.step i = ⟨⟨c.gate.closed, change c.gate.value⟩,
          c.threads.set i ⟨.inside (next c.gate.value), bodies, answers⟩, c.entered⟩ :=
        step_of_getElem? hget
      obtain ⟨more, hmore⟩ := ih c.gate.value
        (c := ⟨⟨c.gate.closed, change c.gate.value⟩,
          c.threads.set i ⟨.inside (next c.gate.value), bodies, answers⟩, c.entered⟩)
        (by simpa using hi) (List.getElem?_set_self hi) hending
      refine ⟨i :: more, ?_⟩
      rw [steps, List.foldl_cons, ← steps, hstep, hmore, List.set_set]

/-- A thread that is outside can come in at an open gate, and run its next body to the end. -/
theorem exists_steps_visit (hget : c.threads[i]? = some t) (hopen : c.gate.closed = false)
    (houtside : t.isInside = false) {body : Body α β π} {rest : List (Body α β π)}
    (hbodies : t.bodies = body :: rest) :
    ∃ more, c.steps more = ⟨ofValue (body.run c.gate.value).2,
      c.threads.set i ⟨.outside, rest, t.answers ++ [(body.run c.gate.value).1]⟩,
      c.entered ++ [i]⟩ := by
  have hi : i < c.threads.length := (List.getElem?_eq_some_iff.mp hget).1
  -- a thread that has looked at the open gate, or has not been there yet, closes it
  have hcloses : ∃ more, c.steps more = ⟨⟨true, c.gate.value⟩,
      c.threads.set i { t with place := .inside body }, c.entered ++ [i]⟩ := by
    rcases t with ⟨place, bodies, answers⟩
    cases hbodies
    cases place with
    | outside =>
      refine ⟨[i], ?_⟩
      rw [steps, List.foldl_cons, step_of_getElem? hget]
      simp only [stepThread, tryClose, hopen, Bool.false_eq_true, if_false]
      rfl
    | waiting =>
      refine ⟨[i, i], ?_⟩
      rw [steps, List.foldl_cons, step_of_getElem? hget, List.foldl_cons,
        step_of_getElem? (List.getElem?_set_self hi)]
      simp only [stepThread, tryClose, hopen, Bool.false_eq_true, if_false, List.set_set]
      rfl
    | inside rest => cases houtside
    | leaving answer => cases houtside
  obtain ⟨more, hmore⟩ := hcloses
  have hending : (Place.inside body).ending? c.gate.value
      = some ((body.run c.gate.value).1, (body.run c.gate.value).2) := rfl
  obtain ⟨rest', hfinish⟩ := exists_steps_finish
    (c := ⟨⟨true, c.gate.value⟩, c.threads.set i { t with place := .inside body },
      c.entered ++ [i]⟩)
    (List.getElem?_set_self hi) hending
  refine ⟨more ++ rest', ?_⟩
  rw [steps_append, hmore, hfinish, List.set_set, hbodies]
  rfl

end

/-- From every crowd that goes on as turns do, all bodies can be run. -/
theorem Follows.exists_isDone {start : Turns α (Body α β π) (Except π β)} {c : Crowd α β π}
    (h : Follows start c) : ∃ more, (c.steps more).isDone = true := by
  induction hleft : c.callsLeft using Nat.strongRecOn generalizing c with
  | ind left ih =>
    -- it is enough to run one body
    have hone : c.isDone = false → ∃ more, (c.steps more).callsLeft < left := by
      intro hundone
      cases h with
      | taken turns before holder t body rest entered_eq took isClosed callers_eq present bodies_eq
          ending_eq alone =>
        obtain ⟨more, hmore⟩ := exists_steps_finish present ending_eq
        refine ⟨more, ?_⟩
        rw [hmore, ← hleft, bodies_eq]
        exact callsLeft_set_lt present bodies_eq _ _ _
      | free turns took gate_eq callers_eq nobody =>
        obtain ⟨t, ht, hempty⟩ := List.all_eq_false.mp hundone
        obtain ⟨i, hget⟩ := List.mem_iff_getElem?.mp ht
        cases hbodies : t.bodies with
        | nil => exact absurd (by rw [hbodies]; rfl) hempty
        | cons body rest =>
          obtain ⟨more, hmore⟩ :=
            exists_steps_visit hget (by rw [gate_eq]; rfl) (nobody t ht) hbodies
          refine ⟨more, ?_⟩
          rw [hmore, ← hleft]
          exact callsLeft_set_lt hget hbodies _ _ _
    cases hdone : c.isDone with
    | true => exact ⟨[], hdone⟩
    | false =>
      obtain ⟨more, hless⟩ := hone hdone
      obtain ⟨rest, hrest⟩ := ih _ hless (h.steps more) rfl
      exact ⟨more ++ rest, (steps_append c more rest) ▸ hrest⟩

end Crowd

end Gate

end HugePool
