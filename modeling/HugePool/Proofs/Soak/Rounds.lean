import HugePool.Proofs.Soak.Work
import HugePool.Soak.Report

/-!
# Rounds of the soak check

A round tells its number, makes a batch, works it and destroys it.  When it goes well, its events
are those of these parts put together, and all of the pools have passed (`Round.Passed`).  On a heap
with room for a batch and with an alignment that is accepted, every round goes well, and the heap
has all of its memory back when the next one begins.

* `run_round_eq_mk_iff`, `run_check_eq_mk_iff`: what the check has done if and only if it ends well,
  on any platform and with any mapper.
* `AmpleHeap.exists_round_passed`, `AmpleHeap.exists_run_check`: it ends well on a heap with room.
* `outcome_check_of_not_accepted`: it fails with an alignment that is not accepted.
* `check_exact`: all of this, with the exit codes.
-/

namespace HugePool.Soak

variable {σ : Type}

/-! ### One round -/

/-- The check tells that a round begins. -/
def roundRecord (o : Options) (number : Nat) : LogRecord :=
  ⟨.info, "dma_pool_check", "round " ++ toString number ++ "/" ++ toString o.rounds.toNat⟩

/-- What a round has come through: its batch when it was made and when it was worked, the state
after its making, and the events of its parts. -/
structure Round (σ : Type) where
  made : List Bay
  worked : List Bay
  taken : σ
  making : List Event
  working : List Event
  dropping : List Event

/-- A round goes from one state to another and makes events: a batch is made for its shapes, each of
its pools passes, and all of them are destroyed. -/
structure Round.Passed (r : Round σ) (c : Context σ) (o : Options) (number : Nat) (s : σ)
    (events : List Event) (s' : σ) : Prop where
  events_eq : events = .log (roundRecord o number) :: (r.making ++ (r.working ++ r.dropping))
  makes : (makeBays c o [] batch).run s = ⟨r.making, r.taken, .ok r.made⟩
  works : (exercise o).run r.made = ⟨r.working, r.worked, .ok ()⟩
  drops : (dropBays c r.worked.reverse).run r.taken = ⟨r.dropping, s', .ok ()⟩
  /-- There is a bay for every shape, and the pools are made one after the other. -/
  whole : r.made.length = batch.length
  madeFor : Chain (Bay.MadeFor c o) (batch.zipIdx.zip r.made) s r.making r.taken
  passed : List.Forall₂ (Bay.At (PassedAt (max o.stride 1).toNat)) r.made r.worked
  /-- The pools are destroyed one after the other, the last one first. -/
  destroyed : Chain (Destroyed c) (poolsOf r.worked).reverse r.taken r.dropping s'

/-- Round number `number` goes well. -/
def RoundPassed (c : Context σ) (o : Options) (number : Nat) (s : σ) (events : List Event)
    (s' : σ) : Prop := ∃ r : Round σ, r.Passed c o number s events s'

section

variable {c : Context σ} {o : Options} {number : Nat} {s s' : σ} {events : List Event}

/-- Nobody has touched the pools of a batch that was just made. -/
theorem untouched_of_madeFor {made : List Bay} (hwhole : made.length = batch.length)
    (h : Chain (Bay.MadeFor c o) (batch.zipIdx.zip made) s events s') :
    List.Forall₂ (Bay.At Untouched) made made := by
  refine List.forall₂_same.mpr (forall_mem_of_madeFor (fun place bay s events s' hbay => ?_)
    hwhole h)
  cases hbay with
  | empty hcount hrefused => exact .empty []
  | pool hcount hall hmade =>
    exact .pool _ _ [] [] ⟨rfl, rfl, Fresh.of_create (congrArg Trace.outcome hmade)⟩

/-- **One round**: it goes well if and only if its parts do, and then all pools have passed. -/
theorem run_round_eq_mk_iff :
    (round c o number).run s = ⟨events, s', .ok ()⟩ ↔ RoundPassed c o number s events s' := by
  constructor
  · intro h
    obtain ⟨_, _, _, _, hreport, hrest, rfl⟩ := Action.run_bind_eq_mk_iff.mp h
    obtain ⟨rfl, rfl, -⟩ := (Trace.mk.injEq ..).mp hreport
    obtain ⟨making, _, made, _, hmake, hwith, rfl⟩ := Action.run_bind_eq_mk_iff.mp hrest
    obtain ⟨working, taken, ⟨⟨⟩, worked⟩, dropping, hwithin, hlast, rfl⟩ :=
      Action.run_bind_eq_mk_iff.mp hwith
    obtain ⟨hwork, rfl⟩ := Action.run_within_eq_mk_iff.mp hwithin
    have hdrop := Action.run_mapError_eq_mk_iff.mp hlast
    obtain ⟨hwhole, hmade⟩ := run_makeBays_batch_eq_mk_iff.mp hmake
    refine ⟨⟨made, worked, taken, making, working, dropping⟩, ?_⟩
    exact {
      events_eq := rfl
      makes := hmake
      works := hwork
      drops := hdrop
      whole := hwhole
      madeFor := hmade
      passed := exercise_passed o (untouched_of_madeFor hwhole hmade) ⟨_, hwork⟩
      destroyed := poolsOf_reverse worked ▸ run_dropBays_eq_mk_iff.mp hdrop }
  · rintro ⟨r, h⟩
    rw [h.events_eq]
    refine Action.run_bind_eq_mk_iff.mpr ⟨_, s, (), _, rfl, ?_, rfl⟩
    refine Action.run_bind_eq_mk_iff.mpr ⟨_, _, _, _, h.makes, ?_, rfl⟩
    refine Action.run_bind_eq_mk_iff.mpr ⟨_, r.taken, ((), r.worked), _, ?_, ?_, rfl⟩
    · exact Action.run_within_eq_mk_iff.mpr ⟨h.works, rfl⟩
    · exact Action.run_mapError_eq_mk_iff.mpr h.drops

/-- The rounds come one after the other. -/
theorem run_roundsFrom_eq_mk_iff (count : Nat) :
    (roundsFrom c o number count).run s = ⟨events, s', .ok ()⟩ ↔
      Chain (RoundPassed c o) (List.range' number count) s events s' := by
  -- on the rounds that are left, from the state that the rounds before have left
  induction count generalizing number s events with
  | zero =>
    refine Action.run_ofOutcome_eq_mk_iff.trans ?_
    rw [List.range'_zero, Chain.nil_iff, and_iff_left rfl]
  | succ count ih =>
    rw [roundsFrom, List.range'_succ, Chain.cons_iff]
    refine Action.run_bind_eq_mk_iff.trans ⟨?_, ?_⟩
    · rintro ⟨first, middle, _, later, hround, hrest, rfl⟩
      exact ⟨first, middle, later, run_round_eq_mk_iff.mp hround, ih.mp hrest, rfl⟩
    · rintro ⟨first, middle, later, hround, hrest, rfl⟩
      exact ⟨first, middle, (), later, run_round_eq_mk_iff.mpr hround, ih.mpr hrest, rfl⟩

theorem run_check_eq_mk_iff :
    (check c o).run s = ⟨events, s', .ok ()⟩ ↔
      Chain (RoundPassed c o) (List.range' 1 o.rounds.toNat) s events s' :=
  run_roundsFrom_eq_mk_iff _

end

/-! ### Rounds on a heap -/

namespace AmpleHeap

variable {o : Options} (heap : AmpleHeap σ o) {s s' : σ} {events : List Event}

/-- The devices of a batch see the pages of the heap as the process does. -/
theorem direct_of_madeFor {made : List Bay} (hwhole : made.length = batch.length)
    (h : Chain (Bay.MadeFor heap.context o) (batch.zipIdx.zip made) s events s') :
    ∀ pool ∈ poolsOf made, Direct pool := by
  have hbays : ∀ bay ∈ made, ∀ pool, bay.pool = some pool → Direct pool := by
    refine forall_mem_of_madeFor (fun place bay s events s' hbay pool hpool => ?_) hwhole h
    cases hbay with
    | empty hcount hrefused => cases hpool
    | pool hcount hall hmade =>
      obtain rfl := Option.some.inj hpool
      exact heap.direct_of_create (congrArg Trace.outcome hmade)
  intro pool hpool
  obtain ⟨bay, hbay, hpool⟩ := List.mem_filterMap.mp hpool
  exact hbays bay hbay pool hpool

/-- A round goes well, and leaves the heap with room for the next one. -/
theorem exists_round_passed (h : o.Accepted) (number : Nat) (hroom : heap.Room o.pieces [] s) :
    ∃ events s', RoundPassed heap.context o number s events s' ∧ heap.Room o.pieces [] s' := by
  obtain ⟨made, taken, ⟨making, hmake⟩, hroom⟩ := heap.makeBays_yields h batch (fun _ => id) []
    (by rw [List.length_nil, Nat.zero_add]) hroom
  obtain ⟨hwhole, hmade⟩ := run_makeBays_batch_eq_mk_iff.mp hmake
  have huntouched := untouched_of_madeFor hwhole hmade
  have hdirect := heap.direct_of_madeFor hwhole hmade
  obtain ⟨worked, hwork⟩ := exercise_yields o huntouched hdirect
  have hpassed := exercise_passed o huntouched hwork
  -- the batch that was worked is destroyed, with the pages that it was made with
  have hmapper : ∀ pool ∈ poolsOf worked, pool.table.mapper = none := by
    have hsame := map_poolsOf_passed (·.table.mapper)
      (fun _ _ h => congrArg PageTable.mapper h.table_eq) hpassed
    have hnone : ∀ mapper ∈ (poolsOf worked).map (·.table.mapper), mapper = none :=
      hsame ▸ List.forall_mem_map.mpr fun pool hpool => (hdirect pool hpool).unmapped
    exact List.forall_mem_map.mp hnone
  have hleases := map_poolsOf_passed Pool.lease
    (fun _ _ h => congrArg₂ Lease.mk h.mapping_eq h.mappedLen_eq) hpassed
  rw [← hleases] at hroom
  obtain ⟨s', hdrop, hroom'⟩ := heap.dropBays_yields hmapper hroom
  obtain ⟨events, hrun⟩ : (round heap.context o number).Yields s () s' :=
    (Action.Yields.note _ s).bind (Action.Yields.bind ⟨_, hmake⟩
      ((hwork.within (dropBays heap.context) taken).bind hdrop.ofCleanup))
  exact ⟨events, s', run_round_eq_mk_iff.mp hrun, heap.refill hroom'⟩

/-- **Any number of rounds**: all of them go well, and none leaves anything behind. -/
theorem exists_run_check (h : o.Accepted) :
    ∃ events s', (check heap.context o).run heap.start = ⟨events, s', .ok ()⟩ ∧
      Chain (fun number s events s' => heap.Room o.pieces [] s ∧
        RoundPassed heap.context o number s events s' ∧ heap.Room o.pieces [] s')
        (List.range' 1 o.rounds.toNat) heap.start events s' := by
  obtain ⟨events, s', hchain, -⟩ := Chain.exists_of_kept
    (fun number s => heap.exists_round_passed h number) (List.range' 1 o.rounds.toNat)
    heap.start_room
  refine ⟨events, s', run_check_eq_mk_iff.mpr (hchain.imp ?_), hchain⟩
  exact fun number s events s' hround => hround.2.1

end AmpleHeap

/-- With an alignment that is not accepted, the first round fails. -/
theorem outcome_check_of_not_accepted (c : Context σ) {o : Options} (h : ¬ o.Accepted)
    (hrounds : o.rounds ≠ 0) (s : σ) : ∃ cause, ((check c o).run s).outcome = .error cause := by
  obtain ⟨count, hcount⟩ := Nat.exists_eq_succ_of_ne_zero
    fun hz : o.rounds.toNat = 0 => hrounds (UInt64.toNat_inj.mp hz)
  obtain ⟨cause, hmake⟩ := outcome_makeBays_of_not_accepted c h s
  refine ⟨cause, ?_⟩
  rw [check, hcount, roundsFrom]
  apply Action.outcome_bind_of_error
  rw [round, report, (Action.Yields.note _ s).outcome_bind]
  exact Action.outcome_bind_of_error hmake _

/-! ### Exit codes -/

theorem Report.exitCode_of_ok {t : Trace σ CheckError Unit} (h : t.outcome = .ok ()) :
    (Report.ofTrace t).exitCode = 0 := by
  rw [Report.ofTrace, h]

theorem Report.exitCode_of_error {t : Trace σ CheckError Unit} {cause : CheckError}
    (h : t.outcome = .error cause) : (Report.ofTrace t).exitCode = 1 := by
  rw [Report.ofTrace, h]

/-- On a heap with room, the exit code depends on the alignment and on whether there is a round. -/
theorem AmpleHeap.exitCode_check {o : Options} (heap : AmpleHeap σ o) :
    (Report.ofTrace ((check heap.context o).run heap.start)).exitCode
      = if o.rounds = 0 ∨ o.Accepted then 0 else 1 := by
  by_cases haccepted : o.Accepted
  · obtain ⟨events, s', hrun, -⟩ := heap.exists_run_check haccepted
    rw [if_pos (.inr haccepted)]
    exact Report.exitCode_of_ok (congrArg Trace.outcome hrun)
  · by_cases hzero : o.rounds = 0
    · -- no pool is ever asked for
      rw [if_pos (.inl hzero), check, hzero]
      exact Report.exitCode_of_ok (Action.Yields.pure () heap.start).outcome_eq
    · obtain ⟨cause, hfails⟩ :=
        outcome_check_of_not_accepted heap.context haccepted hzero heap.start
      rw [if_neg (not_or.mpr ⟨hzero, haccepted⟩)]
      exact Report.exitCode_of_error hfails

/-- **The soak check**: on any platform and with any mapper, it ends well exactly if its rounds come
one after the other and each of them passes, with the events of the rounds put together.  On a heap,
it ends well exactly if there is no round or the alignment is a power of two of at most 4096,
whatever the distance, the number of rounds, the device and the level are; it fails otherwise, and
never panics.  With such an alignment every round goes from a heap of which nothing is out to one of
which nothing is out.  Of the heap, this takes only that the allocations of a batch succeed. -/
theorem check_exact (o : Options) :
    (∀ {σ : Type} (c : Context σ) (s s' : σ) (events : List Event),
      (check c o).run s = ⟨events, s', .ok ()⟩ ↔
        Chain (RoundPassed c o) (List.range' 1 o.rounds.toNat) s events s') ∧
    (run { o with heap := true }).exitCode = (if o.rounds = 0 ∨ o.Accepted then 0 else 1) ∧
    (o.Accepted → ∃ events, (check ⟨Heap.platform, none⟩ o).run {} = ⟨events, {}, .ok ()⟩ ∧
      Chain (fun number s events s' => s = {} ∧
        RoundPassed ⟨Heap.platform, none⟩ o number s events s' ∧ s' = {})
        (List.range' 1 o.rounds.toNat) {} events {}) ∧
    ∀ {σ : Type} (heap : AmpleHeap σ o),
      (Report.ofTrace ((check heap.context o).run heap.start)).exitCode
        = (if o.rounds = 0 ∨ o.Accepted then 0 else 1) ∧
      (o.Accepted → ∃ events s', (check heap.context o).run heap.start = ⟨events, s', .ok ()⟩ ∧
        Chain (fun number s events s' => heap.Room o.pieces [] s ∧
          RoundPassed heap.context o number s events s' ∧ heap.Room o.pieces [] s')
          (List.range' 1 o.rounds.toNat) heap.start events s') := by
  refine ⟨fun c s s' events => run_check_eq_mk_iff, ?_, fun haccepted => ?_,
    fun heap => ⟨heap.exitCode_check, heap.exists_run_check⟩⟩
  · exact (Heap.ample { o with heap := true }).exitCode_check
  · -- a heap of which nothing is out is the empty one
    have hstep : ∀ (number : Nat) (s : Heap), s = {} → ∃ events s',
        RoundPassed ⟨Heap.platform, none⟩ o number s events s' ∧ s' = {} := by
      rintro number s rfl
      obtain ⟨events, s', hround, hroom⟩ :=
        (Heap.ample o).exists_round_passed haccepted number (Heap.ample o).start_room
      exact ⟨events, s', hround, Heap.Lends.idle hroom rfl⟩
    obtain ⟨events, s', hchain, rfl⟩ :=
      Chain.exists_of_kept hstep (List.range' 1 o.rounds.toNat) rfl
    refine ⟨events, run_check_eq_mk_iff.mpr (hchain.imp ?_), hchain⟩
    exact fun number s events s' hround => hround.2.1

theorem check_exact_at_options :
    (run { heap := true, stride := 0, rounds := 3 }).exitCode = 0 ∧
    (run { heap := true, alignment := 3 }).exitCode = 1 ∧
    (run { heap := true, alignment := 3, rounds := 0 }).exitCode = 0 ∧
    ∃ events, (check ⟨Heap.platform, none⟩ { stride := 0, rounds := 3 }).run {}
        = ⟨events, {}, .ok ()⟩ ∧
      Chain (fun number s events s' => s = {} ∧
        RoundPassed ⟨Heap.platform, none⟩ { stride := 0, rounds := 3 } number s events s' ∧ s' = {})
        [1, 2, 3] {} events {} :=
  ⟨(check_exact { stride := 0, rounds := 3 }).2.1, (check_exact { alignment := 3 }).2.1,
    (check_exact { alignment := 3, rounds := 0 }).2.1,
    (check_exact { stride := 0, rounds := 3 }).2.2.1 (by decide)⟩

end HugePool.Soak
