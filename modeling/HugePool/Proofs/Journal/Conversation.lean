import HugePool.Proofs.Pool.Unwinding

/-!
# Conversations with a platform

An operation on pools talks to its platform: it makes calls and asks for working memory, and every
question gets an answer.  An `Exchange` is a question with its answer, and a `Platform.Conversation`
is a list of exchanges in which each answer is the one that the platform gives in the state that the
exchanges before it have left.  A journal shows the calls of a conversation, but not the requests
for memory (`Trace.Shows`).

`Action.Tells` says what an action exchanges with its platform, and how it ends, as long as the
platform keeps its promises (`Event.Kept`).  There is a rule for every operator:

* `Tells.bind`: a conversation goes on where the first action has answered;
* `Tells.onFailure`: after a fault the cleanup has the last word;
* `Says.andThen`: one cleanup speaks after another.
-/

namespace HugePool

variable {σ ε ε' ε'' α β γ : Type}

inductive Exchange where
  | call (event : Event)
  /-- That many bytes of working memory were asked for. -/
  | memory (bytes : Nat) (granted : Bool)

/-- The part of a conversation that a journal shows. -/
def shown (story : List Exchange) : List Event :=
  story.filterMap fun
    | .call event => some event
    | .memory _ _ => none

/-- The calls of a journal, without the records. -/
def callsOf (events : List Event) : List Event := events.filter (·.record?.isNone)

namespace Platform

/-- Asked in state `s`, the platform gives the answer and is left in state `s'`. -/
def Answers (p : Platform σ) (s : σ) : Exchange → σ → Prop
  | .call (.mapPages len answer), s' =>
    (p.mapPages len s).1.answer = answer ∧ (p.mapPages len s).2 = s'
  | .call (.unmapPages start len), s' => (p.unmapPages start len s).2 = s'
  | .call (.translate va answer), s' => p.translate va s = (answer, s')
  | .call (.mapBus mapper device phys len answer), s' =>
    p.mapBus mapper device phys len s = (answer, s')
  | .call (.unmapBus mapper device bus len answer), s' =>
    p.unmapBus mapper device bus len s = (answer, s')
  -- nobody answers a record
  | .call (.log _), _ => False
  | .memory bytes granted, s' => p.reserve bytes s = (granted, s')

def Conversation (p : Platform σ) : σ → List Exchange → σ → Prop
  | s, [], s' => s' = s
  | s, exchange :: rest, s' => ∃ next, p.Answers s exchange next ∧ p.Conversation next rest s'

theorem Answers.conversation {p : Platform σ} {s s' : σ} {exchange : Exchange}
    (h : p.Answers s exchange s') : p.Conversation s [exchange] s' := ⟨s', h, rfl⟩

theorem Conversation.append {p : Platform σ} {s s' s'' : σ} {first second : List Exchange}
    (h : p.Conversation s first s') (h' : p.Conversation s' second s'') :
    p.Conversation s (first ++ second) s'' := by
  induction first generalizing s with
  | nil =>
    cases h
    exact h'
  | cons exchange rest ih =>
    obtain ⟨next, hanswer, hrest⟩ := h
    exact ⟨next, hanswer, ih hrest⟩

end Platform

/-- What platforms promise: huge pages start at a multiple of their size and end at an address, and
a page that was mapped can be unmapped. -/
def Event.Kept : Event → Prop
  | .mapPages len (.ok start) =>
    hugePageSize.toNat ∣ start.toNat ∧ start.toNat + len.toNat < UInt64.size
  | .unmapBus _ _ _ _ (.error _) => False
  | _ => True

instance : DecidablePred Event.Kept
  | .mapPages _ (.ok _) => inferInstanceAs (Decidable (_ ∧ _))
  | .unmapBus _ _ _ _ (.error _) => .isFalse id
  | .mapPages _ (.error _) => .isTrue trivial
  | .unmapBus _ _ _ _ (.ok _) => .isTrue trivial
  | .unmapPages _ _ => .isTrue trivial
  | .translate _ _ => .isTrue trivial
  | .mapBus _ _ _ _ _ => .isTrue trivial
  | .log _ => .isTrue trivial

/-! ### Endings -/

/-- Why an operation does not answer. -/
inductive Fault (ε : Type) where
  | error (cause : ε)
  | panic (cause : Panic)

def Fault.outcome : Fault ε → Outcome ε α
  | .error cause => .error cause
  | .panic cause => .panic cause

def Fault.mapError (f : ε → ε') : Fault ε → Fault ε'
  | .error cause => .error (f cause)
  | .panic cause => .panic cause

/-- The operation does not abort, and its value or its fault is as described. -/
def Outcome.Meets (o : Outcome ε α) (done : α → Prop) (failed : Fault ε → Prop) : Prop :=
  match o with
  | .ok value => done value
  | .error cause => failed (.error cause)
  | .panic cause => failed (.panic cause)
  | .abort => False

theorem Outcome.meets_fault {fault : Fault ε} {done : α → Prop} {failed : Fault ε → Prop} :
    (fault.outcome : Outcome ε α).Meets done failed ↔ failed fault := by
  cases fault <;> rfl

theorem Outcome.Meets.cases {o : Outcome ε α} {done : α → Prop} {failed : Fault ε → Prop}
    (h : o.Meets done failed) :
    (∃ value, o = .ok value ∧ done value) ∨ ∃ fault, o = Fault.outcome fault ∧ failed fault := by
  cases o with
  | ok value => exact Or.inl ⟨value, rfl, h⟩
  | error cause => exact Or.inr ⟨.error cause, rfl, h⟩
  | panic cause => exact Or.inr ⟨.panic cause, rfl, h⟩
  | abort => exact h.elim

/-- The trace is what is seen of a conversation that starts in state `s`. -/
structure Trace.Shows (p : Platform σ) (s : σ) (t : Trace σ ε α) (story : List Exchange) :
    Prop where
  conversation : p.Conversation s story t.state
  calls_eq : callsOf t.events = shown story

/-- As long as the platform keeps its promises, an action has a conversation and an ending that are
as described. -/
def Action.Tells (p : Platform σ) (a : Action σ ε α) (done : List Exchange → α → Prop)
    (failed : List Exchange → Fault ε → Prop) : Prop :=
  ∀ s, (∀ e ∈ (a.run s).events, e.Kept) →
    ∃ story, (a.run s).Shows p s story ∧ (a.run s).outcome.Meets (done story) (failed story)

/-- The action has one conversation only, and answers. -/
def Action.Says (p : Platform σ) (a : Action σ ε α) (story : List Exchange) : Prop :=
  a.Tells p (fun told _ => told = story) fun _ _ => False

theorem callsOf_append (first second : List Event) :
    callsOf (first ++ second) = callsOf first ++ callsOf second := List.filter_append ..

theorem shown_append (first second : List Exchange) :
    shown (first ++ second) = shown first ++ shown second := List.filterMap_append ..

theorem Trace.Shows.append {p : Platform σ} {s : σ} {t : Trace σ ε α} {t' : Trace σ ε' β}
    {first second : List Exchange} (h : t.Shows p s first) (h' : t'.Shows p t.state second)
    (outcome : Outcome ε'' γ) :
    (⟨t.events ++ t'.events, t'.state, outcome⟩ : Trace σ ε'' γ).Shows p s (first ++ second) where
  conversation := h.conversation.append h'.conversation
  calls_eq := by rw [callsOf_append, shown_append, h.calls_eq, h'.calls_eq]

/-- After a fault nothing else happens. -/
theorem Action.run_bind_of_fault {a : Action σ ε α} {next : α → Action σ ε β} {s : σ}
    {fault : Fault ε} (h : (a.run s).outcome = fault.outcome) :
    (a >>= next).run s = ⟨(a.run s).events, (a.run s).state, fault.outcome⟩ := by
  rw [run_bind, h]
  cases fault <;> rfl

theorem Action.events_subset_bind (a : Action σ ε α) (next : α → Action σ ε β) (s : σ) :
    (a.run s).events ⊆ ((a >>= next).run s).events := by
  rw [run_bind]
  split
  · exact List.subset_append_left _ _
  all_goals exact List.Subset.refl _

namespace Action.Tells

variable {p : Platform σ} {a : Action σ ε α} {done : List Exchange → α → Prop}
  {failed : List Exchange → Fault ε → Prop}

/-! ### Operators -/

theorem imp {done' : List Exchange → α → Prop} {failed' : List Exchange → Fault ε → Prop}
    (h : a.Tells p done failed) (hdone : ∀ story value, done story value → done' story value)
    (hfailed : ∀ story fault, failed story fault → failed' story fault) :
    a.Tells p done' failed' := by
  intro s hkept
  obtain ⟨story, hshows, hmeets⟩ := h s hkept
  refine ⟨story, hshows, ?_⟩
  rcases hmeets.cases with ⟨value, hout, hvalue⟩ | ⟨fault, hout, hfault⟩
  · rw [hout]
    exact hdone story value hvalue
  · rw [hout]
    exact Outcome.meets_fault.mpr (hfailed story fault hfault)

theorem of_silent {value : α}
    (h : ∀ s, ∃ events, a.run s = ⟨events, s, .ok value⟩ ∧ callsOf events = [])
    (hdone : done [] value) : a.Tells p done failed := by
  intro s _
  obtain ⟨events, hrun, hcalls⟩ := h s
  rw [hrun]
  exact ⟨[], ⟨rfl, hcalls⟩, hdone⟩

theorem ofOutcome {value : α} (hdone : done [] value) :
    (Action.ofOutcome (.ok value) : Action σ ε α).Tells p done failed :=
  of_silent (fun _ => ⟨[], rfl, rfl⟩) hdone

theorem ofFault (fault : Fault ε) (hfailed : failed [] fault) :
    (Action.ofOutcome fault.outcome : Action σ ε α).Tells p done failed :=
  fun _ _ => ⟨[], ⟨rfl, rfl⟩, Outcome.meets_fault.mpr hfailed⟩

theorem bind {next : α → Action σ ε β} {done' : List Exchange → β → Prop}
    {failed' : List Exchange → Fault ε → Prop} (ha : a.Tells p done failed)
    (hnext : ∀ story value, done story value →
      (next value).Tells p (fun rest => done' (story ++ rest)) fun rest => failed' (story ++ rest))
    (hfailed : ∀ story fault, failed story fault → failed' story fault) :
    (a >>= next).Tells p done' failed' := by
  intro s hkept
  obtain ⟨story, hshows, hmeets⟩ := ha s fun e he => hkept e (events_subset_bind _ _ _ he)
  rcases hmeets.cases with ⟨value, hout, hvalue⟩ | ⟨fault, hout, hfault⟩
  · rw [Action.run_bind, hout] at hkept ⊢
    obtain ⟨rest, hshows', hmeets'⟩ :=
      hnext story value hvalue _ (List.forall_mem_append.mp hkept).2
    exact ⟨story ++ rest, hshows.append hshows' _, hmeets'⟩
  · rw [run_bind_of_fault hout]
    refine ⟨story, ⟨hshows.conversation, hshows.calls_eq⟩, ?_⟩
    exact Outcome.meets_fault.mpr (hfailed story fault hfault)

theorem note (record : LogRecord) : (Action.note record : Action σ ε Unit).Says p [] :=
  of_silent (fun _ => ⟨_, rfl, rfl⟩) rfl

theorem note_bind {record : LogRecord} {next : Unit → Action σ ε α}
    (h : (next ()).Tells p done failed) : (Action.note record >>= next).Tells p done failed := by
  refine (note record).bind (fun story _ hstory => ?_) fun _ _ => False.elim
  rw [hstory]
  exact h

theorem mapError (f : ε → ε') (h : a.Tells p done failed) :
    (a.mapError f).Tells p done
      fun story fault => ∃ first, failed story first ∧ fault = first.mapError f := by
  intro s hkept
  obtain ⟨story, hshows, hmeets⟩ := h s hkept
  refine ⟨story, ⟨hshows.conversation, hshows.calls_eq⟩, ?_⟩
  show ((a.run s).outcome.mapError f).Meets _ _
  rcases hmeets.cases with ⟨value, hout, hvalue⟩ | ⟨fault, hout, hfault⟩
  · rw [hout]
    exact hvalue
  · rw [hout]
    cases fault <;> exact ⟨_, hfault, rfl⟩

end Action.Tells

/-! ### Cleanups -/

section

variable {p : Platform σ} {a : Action σ ε α} {cleanup : Action σ Empty Unit} {undo : List Exchange}

theorem Action.events_subset_cleanUp (t : Trace σ ε α) (cleanup : Action σ Empty Unit) :
    t.events ⊆ (Action.cleanUp t cleanup).events := by
  unfold Action.cleanUp
  split
  · exact List.Subset.refl _
  · exact List.subset_append_left _ _

theorem Action.run_onFailure_of_ok {s : σ} {value : α} (h : (a.run s).outcome = .ok value) :
    (a.onFailure cleanup).run s = a.run s := by
  show Action.onFailure a cleanup s = _
  rw [Action.onFailure]
  simp only [h]

theorem Action.run_onFailure_of_ne_ok {s : σ} (h : ∀ value, (a.run s).outcome ≠ .ok value) :
    (a.onFailure cleanup).run s = Action.cleanUp (a.run s) cleanup := by
  show Action.onFailure a cleanup s = _
  rw [Action.onFailure]
  split
  · exact absurd ‹_› (h _)
  · rfl

/-- A cleanup that goes well has the last word, and changes nothing about the ending. -/
theorem Action.Says.cleanUp {t : Trace σ ε α} {s : σ} {story : List Exchange}
    (hcleanup : cleanup.Says p undo) (ht : t.Shows p s story) (halive : t.outcome ≠ .abort)
    (hkept : ∀ e ∈ (Action.cleanUp t cleanup).events, e.Kept) :
    (Action.cleanUp t cleanup).Shows p s (story ++ undo) ∧
      (Action.cleanUp t cleanup).outcome = t.outcome := by
  have hrun : Action.cleanUp t cleanup = ⟨t.events ++ (cleanup.run t.state).events,
      (cleanup.run t.state).state, t.outcome.afterCleanup (cleanup.run t.state).outcome⟩ := by
    rw [Action.cleanUp]
    split
    · exact absurd ‹_› halive
    · rfl
  rw [hrun] at hkept ⊢
  obtain ⟨rest, hshows, hmeets⟩ := hcleanup t.state (List.forall_mem_append.mp hkept).2
  rcases hmeets.cases with ⟨_, hout, rfl⟩ | ⟨_, _, hfalse⟩
  · rw [hout, Outcome.afterCleanup_ok]
    exact ⟨ht.append hshows _, rfl⟩
  · exact hfalse.elim

/-- What a cleanup tells comes after what the action told before its fault. -/
theorem Action.Tells.onFailure {done : List Exchange → α → Prop}
    {failed : List Exchange → Fault ε → Prop} (ha : a.Tells p done failed)
    (hcleanup : cleanup.Says p undo) :
    (a.onFailure cleanup).Tells p done
      fun story fault => ∃ told, failed told fault ∧ story = told ++ undo := by
  intro s hkept
  -- an action that answers leaves the cleanup to others
  by_cases hok : ∃ value, (a.run s).outcome = .ok value
  · obtain ⟨value, hout⟩ := hok
    rw [run_onFailure_of_ok hout] at hkept ⊢
    obtain ⟨story, hshows, hmeets⟩ := ha s hkept
    rw [hout] at hmeets ⊢
    exact ⟨story, hshows, hmeets⟩
  · rw [run_onFailure_of_ne_ok (not_exists.mp hok)] at hkept ⊢
    obtain ⟨story, hshows, hmeets⟩ := ha s fun e he => hkept e (events_subset_cleanUp _ _ he)
    rcases hmeets.cases with ⟨value, hout, -⟩ | ⟨fault, hout, hfault⟩
    · exact absurd ⟨value, hout⟩ hok
    · have halive : (a.run s).outcome ≠ .abort := by
        rw [hout]
        cases fault <;> exact nofun
      obtain ⟨hshows', hout'⟩ := hcleanup.cleanUp hshows halive hkept
      refine ⟨story ++ undo, hshows', ?_⟩
      rw [hout', hout]
      exact Outcome.meets_fault.mpr ⟨story, hfault, rfl⟩

theorem Action.Says.andThen {first : Action σ Empty Unit} {told : List Exchange}
    (hfirst : first.Says p told) (hcleanup : cleanup.Says p undo) :
    (first.andThen cleanup).Says p (told ++ undo) := by
  intro s hkept
  have hrun : (first.andThen cleanup).run s = Action.cleanUp (first.run s) cleanup := rfl
  rw [hrun] at hkept ⊢
  obtain ⟨story, hshows, hmeets⟩ := hfirst s fun e he => hkept e (events_subset_cleanUp _ _ he)
  rcases hmeets.cases with ⟨_, hout, rfl⟩ | ⟨_, _, hfalse⟩
  · have halive : (first.run s).outcome ≠ .abort := by
      rw [hout]
      exact nofun
    obtain ⟨hshows', hout'⟩ := hcleanup.cleanUp hshows halive hkept
    refine ⟨story ++ undo, hshows', ?_⟩
    rw [hout', hout]
    rfl
  · exact hfalse.elim

end

/-! ### Calls -/

namespace Platform

variable (p : Platform σ)

theorem resolve_tells (va : VirtAddr) :
    (p.resolve va).Tells p (fun story phys => story = [.call (.translate va (.ok phys))])
      fun story fault => ∃ cause, fault = .error cause ∧
        story = [.call (.translate va (.error cause))] := by
  intro s _
  rw [p.run_resolve]
  refine ⟨[.call (.translate va (p.translate va s).1)], ⟨Answers.conversation rfl, rfl⟩, ?_⟩
  cases (p.translate va s).1 with
  | ok phys => exact rfl
  | error cause => exact ⟨cause, rfl, rfl⟩

theorem requestBus_tells (mapper : MapperId) (device : Device) (phys : PhysAddr) (len : UInt64) :
    (p.requestBus mapper device phys len : Action σ ε _).Tells p
      (fun story answer => story = [.call (.mapBus mapper device phys len answer)])
      fun _ _ => False := by
  intro s _
  rw [p.run_requestBus]
  exact ⟨[.call (.mapBus mapper device phys len (p.mapBus mapper device phys len s).1)],
    ⟨Answers.conversation rfl, rfl⟩, rfl⟩

theorem returnBus_tells (mapper : MapperId) (device : Device) (bus : BusAddr) (len : UInt64) :
    (p.returnBus mapper device bus len : Action σ ε _).Tells p
      (fun story answer => answer = .ok () ∧
        story = [.call (.unmapBus mapper device bus len (.ok ()))])
      fun _ _ => False := by
  intro s hkept
  rw [p.run_returnBus] at hkept ⊢
  refine ⟨[.call (.unmapBus mapper device bus len (p.unmapBus mapper device bus len s).1)],
    ⟨Answers.conversation rfl, rfl⟩, ?_⟩
  have hanswer := List.forall_mem_singleton.mp hkept
  cases hcall : (p.unmapBus mapper device bus len s).1 with
  | ok _ => exact ⟨rfl, rfl⟩
  | error cause =>
    rw [hcall] at hanswer
    exact hanswer.elim

theorem requestPages_tells (len : UInt64) :
    (p.requestPages len).Tells p
      (fun story mapping => story = [.call (.mapPages len (.ok mapping))] ∧
        hugePageSize.toNat ∣ mapping.toNat ∧ mapping.toNat + len.toNat < UInt64.size)
      fun story fault => ∃ cause, fault = .error cause ∧
        story = [.call (.mapPages len (.error cause))] := by
  intro s hkept
  have hrun : (p.requestPages len).run s =
      ⟨((p.mapPages len s).1.firstRefusal.map fun cause =>
          Event.log (Notice.retrying len cause)).toList
          ++ [.mapPages len (p.mapPages len s).1.answer],
        (p.mapPages len s).2, .ofExcept (p.mapPages len s).1.answer⟩ := by
    rw [Platform.requestPages, Action.run_bind, Action.run_ask]
    rcases (p.mapPages len s).1 with ⟨_ | cause, answer⟩ <;> rfl
  rw [hrun] at hkept ⊢
  refine ⟨[.call (.mapPages len (p.mapPages len s).1.answer)],
    ⟨Answers.conversation ⟨rfl, rfl⟩, ?_⟩, ?_⟩
  · -- the record of a first refusal comes before the call
    rw [callsOf_append]
    cases (p.mapPages len s).1.firstRefusal <;> rfl
  · have hanswer := List.forall_mem_singleton.mp (List.forall_mem_append.mp hkept).2
    cases hcall : (p.mapPages len s).1.answer with
    | ok mapping =>
      rw [hcall] at hanswer
      exact ⟨rfl, hanswer⟩
    | error cause => exact ⟨cause, rfl, rfl⟩

theorem returnPages_tells (start : VirtAddr) (len : UInt64) :
    (p.returnPages start len : Action σ ε Unit).Says p [.call (.unmapPages start len)] := by
  intro s _
  have hrun : ∃ tail, (p.returnPages start len : Action σ ε Unit).run s =
      ⟨.unmapPages start len :: tail, (p.unmapPages start len s).2, .ok ()⟩ ∧
        callsOf tail = [] := by
    rw [Platform.returnPages, Action.run_bind, Action.run_ask]
    show ∃ tail, Trace.mk ([] ++ (Action.run (_ >>= _) _).events) _ _ = _ ∧ _
    rw [Action.run_bind, Action.run_emit]
    rcases (p.unmapPages start len s).1 with _ | cause | cause <;> exact ⟨_, rfl, rfl⟩
  obtain ⟨tail, hrun, htail⟩ := hrun
  have hcalls : callsOf (.unmapPages start len :: tail) = [.unmapPages start len] :=
    congrArg (List.cons _) htail
  rw [hrun]
  exact ⟨[.call (.unmapPages start len)], ⟨Answers.conversation rfl, hcalls⟩, rfl⟩

theorem requestMemory_tells (count size : Nat) :
    (p.requestMemory count size).Tells p (fun story _ => story = [.memory (count * size) true])
      fun story fault => fault = .error .outOfMemory ∧
        story = [.memory (count * size) false] := by
  intro s _
  have hanswer : p.Conversation s [.memory (count * size) (p.reserve (count * size) s).1]
    (p.reserve (count * size) s).2 := Answers.conversation rfl
  rw [Platform.requestMemory, Action.run_bind, Action.run_ask]
  cases hcall : (p.reserve (count * size) s).1 with
  | true =>
    rw [hcall] at hanswer
    exact ⟨_, ⟨hanswer, rfl⟩, rfl⟩
  | false =>
    rw [hcall] at hanswer
    exact ⟨_, ⟨hanswer, rfl⟩, rfl, rfl⟩

end Platform

end HugePool
