import HugePool.Proofs.Soak.Batch

/-!
# Work on a batch

The check works all pools of a batch, one after the other, four times over: it takes their buffers,
writes patterns, translates addresses and returns the buffers.  `Bay.At` says how far the pools have
come, bay by bay.

* `eachBay_yields_iff`: work on a batch is work on each of its bays.
* `exercise_passed`: if the check goes on after its work on a batch of new pools, each of them has
  passed (`Visit.Passed`), on any platform and with any mapper.
* `exercise_yields`: it does go on if the devices see every page where the process does.
-/

namespace HugePool.Soak

/-! ### Bays at work -/

/-- A pool that was made has come to a stage of the check, with the buffers that were taken. -/
abbrev Stage : Type := Pool → Pool → List Buffer → Prop

/-- The pool of a bay, if there is one, has come to a stage. -/
inductive Bay.At (stage : Stage) : Bay → Bay → Prop where
  | empty (buffers : List Buffer) : At stage ⟨none, buffers⟩ ⟨none, buffers⟩
  | pool (made now : Pool) (first buffers : List Buffer) (h : stage made now buffers) :
    At stage ⟨some made, first⟩ ⟨some now, buffers⟩

section

variable {α : Type} {stage stage' : Stage} {a : List Buffer → Action Pool CheckError α}
  {keep : α → List Buffer → List Buffer}

theorem Bay.withPool_none_yields_iff {buffers : List Buffer} {left : Bay} :
    (Bay.withPool a keep).Yields ⟨none, buffers⟩ () left ↔ left = ⟨none, buffers⟩ := by
  constructor
  · rintro ⟨events, hrun⟩
    exact ((Trace.mk.injEq ..).mp hrun).2.1.symm
  · rintro rfl
    exact ⟨[], rfl⟩

/-- Work goes well in a bay if it does with its pool. -/
theorem Bay.withPool_some_yields_iff {pool : Pool} {buffers : List Buffer} {left : Bay} :
    (Bay.withPool a keep).Yields ⟨some pool, buffers⟩ () left ↔ ∃ value now,
      (a buffers).Yields pool value now ∧ left = ⟨some now, keep value buffers⟩ := by
  constructor
  · rintro ⟨events, hrun⟩
    change Bay.withPool a keep ⟨some pool, buffers⟩ = _ at hrun
    rcases ha : (a buffers).run pool with ⟨first, now, outcome⟩
    simp only [Bay.withPool, ha] at hrun
    cases outcome with
    | ok value => exact ⟨value, now, ⟨first, ha⟩, ((Trace.mk.injEq ..).mp hrun).2.1.symm⟩
    | _ => cases hrun
  · rintro ⟨value, now, ⟨events, hrun⟩, rfl⟩
    refine ⟨events, ?_⟩
    show Bay.withPool a keep ⟨some pool, buffers⟩ = _
    simp only [Bay.withPool, hrun]
    rfl

/-- Work that takes a pool to the next stage takes a bay there. -/
theorem Bay.At.withPool_yields {before now : Bay} (h : Bay.At stage before now)
    (hwork : ∀ made now buffers, stage made now buffers → ∃ value left,
      (a buffers).Yields now value left ∧ stage' made left (keep value buffers)) :
    ∃ left, (Bay.withPool a keep).Yields now () left ∧ Bay.At stage' before left := by
  cases h with
  | empty buffers => exact ⟨_, Bay.withPool_none_yields_iff.mpr rfl, .empty buffers⟩
  | pool made now first buffers h =>
    obtain ⟨value, left, hyields, hleft⟩ := hwork made now buffers h
    exact ⟨_, Bay.withPool_some_yields_iff.mpr ⟨value, left, hyields, rfl⟩,
      .pool made left first _ hleft⟩

end

/-- Work on a batch is work on each of its bays. -/
theorem eachBay_yields_iff {a : Action Bay CheckError Unit} {bays left : List Bay} :
    (eachBay a).Yields bays () left ↔
      List.Forall₂ (fun bay next => a.Yields bay () next) bays left := by
  induction bays generalizing left with
  | nil =>
    rw [List.forall₂_nil_left_iff]
    constructor
    · rintro ⟨events, hrun⟩
      exact ((Trace.mk.injEq ..).mp hrun).2.1.symm
    · rintro rfl
      exact ⟨[], rfl⟩
  | cons bay rest ih =>
    rw [List.forall₂_cons_left_iff]
    constructor
    · rintro ⟨events, hrun⟩
      change eachBay a (bay :: rest) = _ at hrun
      rcases ha : a.run bay with ⟨first, next, outcome⟩
      simp only [eachBay, ha] at hrun
      cases outcome with
      | ok value =>
        obtain ⟨-, rfl, hvalue⟩ := (Trace.mk.injEq ..).mp hrun
        exact ⟨next, _, ⟨first, ha⟩, ih.mp (.of_outcome hvalue rfl), rfl⟩
      | _ => cases hrun
    · rintro ⟨next, more, ⟨first, ha⟩, hrest, rfl⟩
      obtain ⟨events, hrun⟩ := ih.mpr hrest
      refine ⟨first ++ events, ?_⟩
      show eachBay a (bay :: rest) = _
      simp only [eachBay, ha]
      rw [show eachBay a rest = _ from hrun]

theorem eachBayReversed_yields_iff {a : Action Bay CheckError Unit} {bays left : List Bay} :
    (eachBayReversed a).Yields bays () left ↔
      List.Forall₂ (fun bay next => a.Yields bay () next) bays left := by
  rw [← List.forall₂_reverse_iff, ← eachBay_yields_iff]
  constructor
  · rintro ⟨events, hrun⟩
    obtain ⟨-, rfl, hvalue⟩ := (Trace.mk.injEq ..).mp hrun
    exact .of_outcome hvalue (List.reverse_reverse _).symm
  · rintro ⟨events, hrun⟩
    refine ⟨events, ?_⟩
    show eachBayReversed a bays = _
    simp only [eachBayReversed, hrun, List.reverse_reverse]

/-- What goes well with each member of a list takes all of them to the next stage. -/
theorem exists_forall₂ {ι α β : Type} {P : ι → α → Prop} {Q : ι → β → Prop} {works : α → β → Prop}
    {places : List ι} {members : List α} (h : List.Forall₂ P places members)
    (hwork : ∀ place member, P place member → ∃ next, works member next ∧ Q place next) :
    ∃ left, List.Forall₂ works members left ∧ List.Forall₂ Q places left := by
  induction h with
  | nil => exact ⟨[], .nil, .nil⟩
  | cons hmember _ ih =>
    obtain ⟨next, hnext, hplace⟩ := hwork _ _ hmember
    obtain ⟨left, hleft, hplaces⟩ := ih
    exact ⟨next :: left, .cons hnext hleft, .cons hplace hplaces⟩

/-- A member of one list can be exchanged for another that belongs to the same place. -/
theorem forall₂_set {α β : Type} {R : α → β → Prop} {places : List α} {members : List β}
    (h : List.Forall₂ R places members) {n : Nat} {member : β}
    (hmember : members[n]? = some member) :
    ∃ place, R place member ∧
      ∀ other, R place other → List.Forall₂ R places (members.set n other) := by
  induction h generalizing n with
  | nil => cases hmember
  | @cons place first places members hfirst hrest ih =>
    cases n with
    | zero =>
      obtain rfl := Option.some.inj hmember
      exact ⟨place, hfirst, fun other hother => .cons hother hrest⟩
    | succ n =>
      obtain ⟨found, hfound, hset⟩ := ih hmember
      exact ⟨found, hfound, fun other hother => .cons hfirst (hset other hother)⟩

/-- Work on one bay keeps all bays at their stage if it keeps the pool there. -/
theorem atBay_yields {stage : Stage} {made bays : List Bay}
    (h : List.Forall₂ (Bay.At stage) made bays) {number : Nat} {bay : Bay}
    (hbay : bays[number]? = some bay) {a : List Buffer → Action Pool CheckError Unit}
    (hwork : ∀ made now buffers, stage made now buffers →
      ∃ left, (a buffers).Yields now () left ∧ stage made left buffers) :
    let t := (Bay.withPool a fun _ buffers => buffers).run bay
    ∃ left, (∃ events, Trace.mk t.events (bays.set number t.state) t.outcome
        = ⟨events, left, .ok ()⟩) ∧ List.Forall₂ (Bay.At stage) made left := by
  obtain ⟨before, hbefore, hset⟩ := forall₂_set h hbay
  have hworks : ∃ left, (Bay.withPool a fun _ buffers => buffers).Yields bay () left ∧
      Bay.At stage before left :=
    hbefore.withPool_yields fun made now buffers hstage => ⟨(), hwork made now buffers hstage⟩
  obtain ⟨left, ⟨events, hrun⟩, hleft⟩ := hworks
  exact ⟨bays.set number left, ⟨events, by rw [hrun]⟩, hset left hleft⟩

/-- Work on one buffer of one bay keeps all bays at their stage if it keeps the pool there. -/
theorem checkPatternAt_yields {stage : Stage} {made bays : List Bay}
    (h : List.Forall₂ (Bay.At stage) made bays)
    (hwork : ∀ made now buffers, stage made now buffers → ∀ buffer ∈ buffers,
      ∃ left, (checkPattern buffer).Yields now () left ∧ stage made left buffers)
    (number index : Nat) :
    ∃ left, (checkPatternAt number index).Yields bays () left ∧
      List.Forall₂ (Bay.At stage) made left := by
  cases hbay : bays[number]? with
  | none =>
    refine ⟨bays, ⟨[], ?_⟩, h⟩
    show checkPatternAt number index bays = _
    rw [checkPatternAt, hbay]
  | some bay =>
    simp only [Action.Yields, Action.run, checkPatternAt, hbay]
    refine atBay_yields h hbay fun made now buffers hstage => ?_
    cases hbuffer : buffers[index]? with
    | none => exact ⟨now, Action.Yields.pure () now, hstage⟩
    | some buffer => exact hwork made now buffers hstage buffer (List.mem_of_getElem? hbuffer)

/-! ### The stages of the work -/

/-- The check has not touched the pool yet. -/
def Untouched : Stage := fun made now buffers => now = made ∧ buffers = [] ∧ Fresh made

/-- All buffers of the pool are out. -/
def Emptied : Stage := fun made now buffers => ∃ drained base, Marked made drained base now buffers

/-- All buffers of the pool are out, and their addresses translate back. -/
def Translated (stride : Nat) : Stage := fun made now buffers =>
  Emptied made now buffers ∧ TranslatesBack now stride buffers

/-- The pool has passed, with addresses visited at a distance. -/
def PassedAt (stride : Nat) : Stage := fun made left buffers =>
  ∃ drained marked, (⟨made, drained, marked, left, buffers⟩ : Visit).Passed stride

theorem stride_pos (o : Options) : 0 < (max o.stride 1).toNat := by
  rw [UInt64.toNat_max]
  exact Nat.lt_of_lt_of_le Nat.one_pos (Nat.le_max_right _ _)

section

variable {made bays : List Bay}

theorem drainAll_yields (h : List.Forall₂ (Bay.At Untouched) made bays) :
    ∃ left, drainAll.Yields bays () left ∧ List.Forall₂ (Bay.At Emptied) made left := by
  simp only [drainAll, eachBay_yields_iff]
  refine exists_forall₂ h fun _ _ hbay => hbay.withPool_yields fun made now buffers => ?_
  rintro ⟨rfl, rfl, hfresh⟩
  obtain ⟨left, taken, hleft⟩ := hfresh.drained
  exact ⟨taken, left, (Action.Yields.ask get now).bind hleft.drains, left, now,
    hleft.marked hfresh⟩

theorem checkPatterns_yields (h : List.Forall₂ (Bay.At Emptied) made bays) :
    ∃ left, checkPatterns.Yields bays () left ∧ List.Forall₂ (Bay.At Emptied) made left := by
  refine Action.Yields.forM (fun place bays hbays => ?_) patterned h
  refine checkPatternAt_yields hbays (fun made now buffers hstage buffer hbuffer => ?_) _ _
  obtain ⟨drained, base, hstage⟩ := hstage
  obtain ⟨base', now', hcheck, hstage'⟩ := hstage.checkPattern_yields hbuffer
  exact ⟨now', hcheck, drained, base', hstage'⟩

theorem checkBay_yields_iff {before now left : Bay} (h : Bay.At Emptied before now)
    {stride : UInt64} (hstride : 0 < stride.toNat) :
    (Bay.withPool (checkAddresses stride) fun _ buffers => buffers).Yields now () left ↔
      left = now ∧ Bay.At (Translated stride.toNat) before now := by
  cases h with
  | empty buffers =>
    exact Bay.withPool_none_yields_iff.trans (and_iff_left (.empty buffers)).symm
  | pool made now first buffers h =>
    obtain ⟨drained, base, hmarked⟩ := h
    rw [Bay.withPool_some_yields_iff]
    constructor
    · rintro ⟨_, _, hcheck, rfl⟩
      obtain ⟨rfl, hback⟩ := (hmarked.checkAddresses_yields_iff hstride).mp hcheck
      exact ⟨rfl, .pool made _ first buffers ⟨⟨drained, base, hmarked⟩, hback⟩⟩
    · rintro ⟨rfl, htranslated⟩
      cases htranslated with
      | pool _ _ _ _ h =>
        exact ⟨(), now, (hmarked.checkAddresses_yields_iff hstride).mpr ⟨rfl, h.2⟩, rfl⟩

/-- The check of the addresses goes on if and only if those of all pools translate back. -/
theorem translateAll_yields_iff (h : List.Forall₂ (Bay.At Emptied) made bays) {stride : UInt64}
    (hstride : 0 < stride.toNat) {left : List Bay} :
    (translateAll stride).Yields bays () left ↔
      left = bays ∧ List.Forall₂ (Bay.At (Translated stride.toNat)) made bays := by
  rw [translateAll, eachBay_yields_iff]
  induction h generalizing left with
  | nil => simp
  | cons hbay _ ih =>
    rw [List.forall₂_cons_left_iff, List.forall₂_cons]
    constructor
    · rintro ⟨next, more, hnext, hmore, rfl⟩
      obtain ⟨rfl, hfirst⟩ := (checkBay_yields_iff hbay hstride).mp hnext
      obtain ⟨rfl, hrest⟩ := ih.mp hmore
      exact ⟨rfl, hfirst, hrest⟩
    · rintro ⟨rfl, hfirst, hrest⟩
      exact ⟨_, _, (checkBay_yields_iff hbay hstride).mpr ⟨rfl, hfirst⟩, ih.mpr ⟨rfl, hrest⟩, rfl⟩

/-- The addresses of pools whose devices see the pages as the process does translate back. -/
theorem translated_of_direct (h : List.Forall₂ (Bay.At Emptied) made bays)
    (hdirect : ∀ pool ∈ poolsOf made, Direct pool) (stride : Nat) :
    List.Forall₂ (Bay.At (Translated stride)) made bays := by
  induction h with
  | nil => exact .nil
  | cons hbay _ ih =>
    cases hbay with
    | empty buffers => exact .cons (.empty buffers) (ih hdirect)
    | pool pool now first buffers h =>
      obtain ⟨hpool, hrest⟩ := List.forall_mem_cons.mp hdirect
      refine .cons (.pool pool now first buffers ⟨h, ?_⟩) (ih hrest)
      obtain ⟨drained, base, hmarked⟩ := h
      exact hmarked.translatesBack_of_direct hpool stride

theorem putBackAll_yields {stride : Nat}
    (h : List.Forall₂ (Bay.At (Translated stride)) made bays) :
    ∃ left, putBackAll.Yields bays () left ∧ List.Forall₂ (Bay.At (PassedAt stride)) made left := by
  simp only [putBackAll, eachBayReversed_yields_iff]
  refine exists_forall₂ h fun _ _ hbay => hbay.withPool_yields fun made now buffers => ?_
  rintro ⟨⟨drained, base, hmarked⟩, hback⟩
  obtain ⟨left, hputBack, hpassed⟩ := hmarked.putBack_yields hback
  exact ⟨(), left, hputBack, drained, now, hpassed⟩

end

/-! ### The whole work -/

section

variable (o : Options) {made : List Bay} (h : List.Forall₂ (Bay.At Untouched) made made)

include h

/-- All buffers are taken, and only the translations can go wrong after that. -/
theorem exists_emptied : ∃ emptied, List.Forall₂ (Bay.At Emptied) made emptied ∧
    ∀ worked, (exercise o).Yields made () worked ↔
      (translateAll (max o.stride 1) >>= fun _ => putBackAll).Yields emptied () worked := by
  obtain ⟨drained, hdrain, hdrained⟩ := drainAll_yields h
  obtain ⟨marked, hmark, hmarked⟩ := checkPatterns_yields hdrained
  exact ⟨marked, hmarked, fun worked => hdrain.bind_iff.trans hmark.bind_iff⟩

/-- **Soundness of the work**: if the check goes on, each pool has passed. -/
theorem exercise_passed {worked : List Bay} (hwork : (exercise o).Yields made () worked) :
    List.Forall₂ (Bay.At (PassedAt (max o.stride 1).toNat)) made worked := by
  obtain ⟨emptied, hemptied, hrest⟩ := exists_emptied o h
  obtain ⟨events, hrun⟩ := (hrest worked).mp hwork
  obtain ⟨_, bays, _, _, htranslate, hreturn, -⟩ := Action.run_bind_eq_mk_iff.mp hrun
  obtain ⟨rfl, htranslated⟩ :=
    (translateAll_yields_iff hemptied (stride_pos o)).mp ⟨_, htranslate⟩
  obtain ⟨left, hputBack, hpassed⟩ := putBackAll_yields htranslated
  obtain ⟨-, rfl⟩ := hputBack.unique ⟨_, hreturn⟩
  exact hpassed

/-- **Progress of the work**: the check goes on if the devices see the pages as the process does. -/
theorem exercise_yields (hdirect : ∀ pool ∈ poolsOf made, Direct pool) :
    ∃ worked, (exercise o).Yields made () worked := by
  obtain ⟨emptied, hemptied, hrest⟩ := exists_emptied o h
  have htranslated := translated_of_direct hemptied hdirect (max o.stride 1).toNat
  obtain ⟨worked, hputBack, -⟩ := putBackAll_yields htranslated
  have htranslate := (translateAll_yields_iff hemptied (stride_pos o)).mpr ⟨rfl, htranslated⟩
  exact ⟨worked, (hrest worked).mpr (htranslate.bind hputBack)⟩

end

/-- Pools that have passed still have the pages that they were made with. -/
theorem map_poolsOf_passed {α : Type} (f : Pool → α)
    (hf : ∀ made left : Pool, made.Same left → f left = f made) {stride : Nat}
    {made worked : List Bay} (h : List.Forall₂ (Bay.At (PassedAt stride)) made worked) :
    (poolsOf worked).map f = (poolsOf made).map f := by
  induction h with
  | nil => rfl
  | cons hbay _ ih =>
    cases hbay with
    | empty buffers => exact ih
    | pool made left first buffers h =>
      obtain ⟨drained, marked, hpassed⟩ := h
      exact congrArg₂ List.cons (hf made left hpassed.same) ih

end HugePool.Soak
