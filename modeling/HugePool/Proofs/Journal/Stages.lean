import HugePool.Action

/-!
# Stages of a run that went well

A run that ends in a value has come through all of its stages, and its events are theirs put
together.  There is a rule for every operator that takes such a run apart, and each of them is an
equivalence, so that it puts a run together as well.  A loop over a list is a `Chain`: each item
takes the state one step further.

* `Action.run_bind_eq_mk_iff`, `Action.run_within_eq_mk_iff`, `Action.run_andThen_eq_mk_iff`: the
  operators.
* `Action.run_cleanAll_eq_mk_iff`: giving back the members of a list is a chain.
* `Chain.exists_of_kept`: a chain in which each step is possible, and keeps what it needs, can be
  walked to its end.
-/

namespace HugePool

/-- Each item of a list takes the state one step further, and the events of the steps are put
together. -/
inductive Chain {ι σ : Type} (step : ι → σ → List Event → σ → Prop) :
    List ι → σ → List Event → σ → Prop where
  | nil (s : σ) : Chain step [] s [] s
  | cons {item : ι} {rest : List ι} {s s' s'' : σ} {events later : List Event}
    (h : step item s events s') (hrest : Chain step rest s' later s'') :
    Chain step (item :: rest) s (events ++ later) s''

namespace Chain

variable {ι σ : Type} {step step' : ι → σ → List Event → σ → Prop} {item : ι} {items : List ι}
  {s s' : σ} {events : List Event}

theorem nil_iff : Chain step [] s events s' ↔ events = [] ∧ s' = s := by
  constructor
  · intro h
    cases h with
    | nil => exact ⟨rfl, rfl⟩
  · rintro ⟨rfl, rfl⟩
    exact .nil s'

theorem cons_iff :
    Chain step (item :: items) s events s' ↔ ∃ first middle later, step item s first middle ∧
      Chain step items middle later s' ∧ events = first ++ later := by
  constructor
  · intro h
    cases h with
    | cons h hrest => exact ⟨_, _, _, h, hrest, rfl⟩
  · rintro ⟨first, middle, later, h, hrest, rfl⟩
    exact .cons h hrest

/-- A step of which nothing is told can come before others of that kind. -/
theorem cons_silent {s'' : σ} (h : step item s [] s') (hrest : Chain step items s' [] s'') :
    Chain step (item :: items) s [] s'' := by
  show Chain step (item :: items) s ([] ++ []) s''
  exact .cons h hrest

theorem imp (himp : ∀ item s events s', step item s events s' → step' item s events s')
    (h : Chain step items s events s') : Chain step' items s events s' := by
  induction h with
  | nil s => exact .nil s
  | cons h _ ih => exact .cons (himp _ _ _ _ h) ih

/-- What the steps of a chain have in common is true of every item. -/
theorem forall_mem {p : ι → Prop} (hstep : ∀ item s events s', step item s events s' → p item)
    (h : Chain step items s events s') : ∀ item ∈ items, p item := by
  induction h with
  | nil => exact List.forall_mem_nil _
  | cons h _ ih => exact List.forall_mem_cons.mpr ⟨hstep _ _ _ _ h, ih⟩

/-- A chain whose steps are possible as long as something is kept, and keep it, can be walked to its
end. -/
theorem exists_of_kept {kept : σ → Prop}
    (hstep : ∀ item s, kept s → ∃ events s', step item s events s' ∧ kept s') (items : List ι)
    {s : σ} (hs : kept s) :
    ∃ events s', Chain (fun item s events s' => kept s ∧ step item s events s' ∧ kept s')
      items s events s' ∧ kept s' := by
  -- on the items that are left, from the state that the items before have left
  induction items generalizing s with
  | nil => exact ⟨[], s, .nil s, hs⟩
  | cons item rest ih =>
    obtain ⟨events, s', h, hs'⟩ := hstep item s hs
    obtain ⟨later, s'', hrest, hs''⟩ := ih hs'
    exact ⟨events ++ later, s'', .cons ⟨hs, h, hs'⟩ hrest, hs''⟩

end Chain

namespace Action

variable {σ τ ε ε' α β : Type} {events : List Event}

section

variable {a : Action σ ε α} {s s' : σ} {value : α}

theorem run_ofOutcome_eq_mk_iff {o : Outcome ε α} :
    (ofOutcome o).run s = ⟨events, s', .ok value⟩ ↔ events = [] ∧ s' = s ∧ o = .ok value := by
  rw [run_ofOutcome, Trace.mk.injEq]
  exact and_congr eq_comm (and_congr_left' eq_comm)

theorem run_bind_eq_mk_iff {next : α → Action σ ε β} {result : β} :
    (a >>= next).run s = ⟨events, s', .ok result⟩ ↔ ∃ first middle value later,
      a.run s = ⟨first, middle, .ok value⟩ ∧
      (next value).run middle = ⟨later, s', .ok result⟩ ∧ events = first ++ later := by
  constructor
  · intro h
    rw [run_bind] at h
    rcases hrun : a.run s with ⟨first, middle, outcome⟩
    rw [hrun] at h
    cases outcome with
    | ok value =>
      obtain ⟨hevents, hstate, hout⟩ := (Trace.mk.injEq ..).mp h
      refine ⟨first, middle, value, ((next value).run middle).events, rfl, ?_, hevents.symm⟩
      rw [← hstate, ← hout]
    | error => cases h
    | panic => cases h
    | abort => cases h
  · rintro ⟨first, middle, value, later, ha, hnext, rfl⟩
    rw [run_bind_of_ok ha, hnext]

theorem run_mapError_eq_mk_iff {f : ε → ε'} :
    (a.mapError f).run s = ⟨events, s', .ok value⟩ ↔ a.run s = ⟨events, s', .ok value⟩ := by
  show Trace.mk (a.run s).events (a.run s).state ((a.run s).outcome.mapError f) = _ ↔ _
  rcases a.run s with ⟨first, middle, outcome⟩
  cases outcome <;> simp [Outcome.mapError]

/-- What went well was not cleaned up. -/
theorem run_onFailure_eq_mk_iff {cleanup : Action σ Empty Unit} :
    (a.onFailure cleanup).run s = ⟨events, s', .ok value⟩ ↔ a.run s = ⟨events, s', .ok value⟩ := by
  constructor
  · intro h
    have hout := run_onFailure_eq_ok_iff.mp (congrArg Trace.outcome h)
    change onFailure a cleanup s = _ at h
    rwa [onFailure, hout] at h
  · intro h
    show onFailure a cleanup s = _
    rw [onFailure, h]

/-- A cleanup makes no value out of a failure. -/
theorem outcome_eq_of_cleanUp {t : Trace σ ε α} {cleanup : Action σ Empty Unit}
    (h : (cleanUp t cleanup).outcome = .ok value) : t.outcome = .ok value := by
  unfold cleanUp at h
  split at h
  · exact h
  · exact (Outcome.afterCleanup_eq_ok_iff.mp h).1

theorem run_within_eq_mk_iff {body : Action τ ε α} {held left : τ}
    {giveBack : τ → Action σ Empty Unit} :
    (within held body giveBack).run s = ⟨events, s', .ok (value, left)⟩ ↔
      body.run held = ⟨events, left, .ok value⟩ ∧ s' = s := by
  show within held body giveBack s = _ ↔ _
  rw [within]
  rcases body.run held with ⟨first, after, outcome⟩
  constructor
  · intro h
    cases outcome with
    | ok answer =>
      obtain ⟨rfl, rfl, hvalue⟩ := (Trace.mk.injEq ..).mp h
      obtain ⟨rfl, rfl⟩ := Prod.mk.inj (Outcome.ok.inj hvalue)
      exact ⟨rfl, rfl⟩
    | error cause => cases outcome_eq_of_cleanUp (congrArg Trace.outcome h)
    | panic cause => cases outcome_eq_of_cleanUp (congrArg Trace.outcome h)
    | abort => cases h
  · rintro ⟨hrun, rfl⟩
    obtain ⟨rfl, rfl, rfl⟩ := (Trace.mk.injEq ..).mp hrun
    rfl

end

/-! ### Cleanups -/

section

variable {first second : Action σ Empty Unit} {s s' : σ}

theorem run_andThen_eq_mk_iff :
    (first.andThen second).run s = ⟨events, s', .ok ()⟩ ↔ ∃ before middle later,
      first.run s = ⟨before, middle, .ok ()⟩ ∧ second.run middle = ⟨later, s', .ok ()⟩ ∧
      events = before ++ later := by
  show cleanUp (first.run s) second = _ ↔ _
  rcases first.run s with ⟨before, middle, outcome⟩
  constructor
  · intro h
    obtain rfl := outcome_eq_of_cleanUp (congrArg Trace.outcome h)
    obtain ⟨hevents, hstate, hout⟩ := (Trace.mk.injEq ..).mp h
    refine ⟨before, middle, (second.run middle).events, rfl, ?_, hevents.symm⟩
    rw [← hstate, ← (Outcome.afterCleanup_eq_ok_iff.mp hout).2]
  · rintro ⟨_, _, later, hfirst, hsecond, rfl⟩
    obtain ⟨rfl, rfl, rfl⟩ := (Trace.mk.injEq ..).mp hfirst
    show Trace.mk (before ++ (second.run middle).events) (second.run middle).state
      ((Outcome.ok () : Outcome Empty Unit).afterCleanup (second.run middle).outcome) = _
    rw [hsecond]
    rfl

/-- The members of a list are given back in order. -/
theorem run_cleanAll_eq_mk_iff {giveBack : τ → Action σ Empty Unit} {items : List τ} :
    (cleanAll giveBack items).run s = ⟨events, s', .ok ()⟩ ↔
      Chain (fun item s events s' => (giveBack item).run s = ⟨events, s', .ok ()⟩)
        items s events s' := by
  induction items generalizing s events with
  | nil => exact (run_ofOutcome_eq_mk_iff.trans (by simp)).trans Chain.nil_iff.symm
  | cons item rest ih =>
    rw [cleanAll, run_andThen_eq_mk_iff, Chain.cons_iff]
    simp only [ih]

end

end Action

end HugePool
