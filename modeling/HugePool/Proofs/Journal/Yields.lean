import HugePool.Proofs.Journal.Stages

/-!
# Actions that go well

`Action.Yields` says that an action comes to its end from a state: which value it answers with, and
which state it leaves.  The events on the way are left open, so that what goes well can be composed
without them.  The rule for an operator is the one for its runs (`Action.run_bind_eq_mk_iff` and so
on), and there is one for an error that comes after what goes well.
-/

namespace HugePool.Action

variable {σ τ ε ε' α β : Type}

/-- From state `s` the action answers with a value and leaves state `s'`. -/
def Yields (a : Action σ ε α) (s : σ) (value : α) (s' : σ) : Prop :=
  ∃ events, a.run s = ⟨events, s', .ok value⟩

namespace Yields

variable {a : Action σ ε α} {s s' s'' : σ} {value : α}

theorem outcome_eq (h : a.Yields s value s') : (a.run s).outcome = .ok value := by
  obtain ⟨events, hrun⟩ := h
  rw [hrun]

theorem of_outcome (h : (a.run s).outcome = .ok value) (hleft : (a.run s).state = s') :
    a.Yields s value s' := by
  refine ⟨(a.run s).events, ?_⟩
  rw [← h, ← hleft]

theorem pure (value : α) (s : σ) : (Pure.pure value : Action σ ε α).Yields s value s := ⟨[], rfl⟩

theorem ofOutcome (value : α) (s : σ) :
    (Action.ofOutcome (.ok value) : Action σ ε α).Yields s value s := ⟨[], rfl⟩

theorem note (record : LogRecord) (s : σ) : (Action.note record : Action σ ε Unit).Yields s () s :=
  ⟨_, rfl⟩

theorem ask (question : StateM σ α) (s : σ) :
    (Action.ask question : Action σ ε α).Yields s (question s).1 (question s).2 := ⟨_, rfl⟩

theorem bind {next : α → Action σ ε β} {result : β} (h : a.Yields s value s')
    (hnext : (next value).Yields s' result s'') : (a >>= next).Yields s result s'' := by
  obtain ⟨events, hrun⟩ := h
  obtain ⟨rest, hrest⟩ := hnext
  exact ⟨events ++ rest, run_bind_eq_mk_iff.mpr ⟨_, _, _, _, hrun, hrest, rfl⟩⟩

/-- An action ends in one way only. -/
theorem unique {other : α} (h : a.Yields s value s') (h' : a.Yields s other s'') :
    other = value ∧ s'' = s' := by
  obtain ⟨events, hrun⟩ := h
  obtain ⟨events', hrun'⟩ := h'
  obtain ⟨-, hstate, hvalue⟩ := (Trace.mk.injEq ..).mp (hrun'.symm.trans hrun)
  exact ⟨Outcome.ok.inj hvalue, hstate⟩

/-- What comes after an action that goes well decides whether the whole does. -/
theorem bind_iff {next : α → Action σ ε β} {result : β} (h : a.Yields s value s') :
    (a >>= next).Yields s result s'' ↔ (next value).Yields s' result s'' := by
  refine ⟨fun hbind => ?_, h.bind⟩
  obtain ⟨events, hrun⟩ := hbind
  obtain ⟨_, _, _, later, hfirst, hnext, -⟩ := run_bind_eq_mk_iff.mp hrun
  obtain ⟨rfl, rfl⟩ := h.unique ⟨_, hfirst⟩
  exact ⟨later, hnext⟩

theorem mapError (f : ε → ε') (h : a.Yields s value s') : (a.mapError f).Yields s value s' :=
  h.imp fun _ => run_mapError_eq_mk_iff.mpr

/-- What went well needs no cleanup. -/
theorem onFailure (cleanup : Action σ Empty Unit) (h : a.Yields s value s') :
    (a.onFailure cleanup).Yields s value s' := h.imp fun _ => run_onFailure_eq_mk_iff.mpr

/-- A value that is worked with well is handed over as the work has left it. -/
theorem within {body : Action τ ε α} {held left : τ} (giveBack : τ → Action σ Empty Unit) (s : σ)
    (h : body.Yields held value left) :
    (Action.within held body giveBack).Yields s (value, left) s :=
  h.imp fun _ hrun => run_within_eq_mk_iff.mpr ⟨hrun, rfl⟩

/-- What each action of a list keeps is kept by all of them. -/
theorem forM {f : β → Action σ ε Unit} {kept : σ → Prop}
    (hf : ∀ item s, kept s → ∃ s', (f item).Yields s () s' ∧ kept s') (items : List β) {s : σ}
    (hs : kept s) : ∃ s', (items.forM f).Yields s () s' ∧ kept s' := by
  induction items generalizing s with
  | nil => exact ⟨s, pure () s, hs⟩
  | cons item rest ih =>
    obtain ⟨s', hitem, hs'⟩ := hf item s hs
    obtain ⟨s'', hrest, hs''⟩ := ih hs'
    exact ⟨s'', hitem.bind hrest, hs''⟩

end Yields

/-! ### Cleanups -/

section

variable {first second : Action σ Empty Unit} {s s' s'' : σ}

theorem Yields.andThen (h : first.Yields s () s') (h' : second.Yields s' () s'') :
    (first.andThen second).Yields s () s'' := by
  obtain ⟨events, hrun⟩ := h
  obtain ⟨rest, hrest⟩ := h'
  exact ⟨events ++ rest, run_andThen_eq_mk_iff.mpr ⟨_, _, _, hrun, hrest, rfl⟩⟩

theorem Yields.ofCleanup (h : first.Yields s () s') :
    (Action.ofCleanup first : Action σ ε Unit).Yields s () s' := h.mapError Empty.elim

end

/-! ### Errors -/

section

variable {a : Action σ ε α} {s s' : σ} {value : α} {cause : ε}

/-- What comes after an action that goes well decides how the whole ends. -/
theorem Yields.outcome_bind (h : a.Yields s value s') (next : α → Action σ ε β) :
    ((a >>= next).run s).outcome = ((next value).run s').outcome := by
  obtain ⟨events, hrun⟩ := h
  rw [run_bind_of_ok hrun]

theorem outcome_bind_of_error (h : (a.run s).outcome = .error cause) (next : α → Action σ ε β) :
    ((a >>= next).run s).outcome = .error cause := by
  rw [run_bind, h]

/-- A cleanup that goes well leaves an error alone. -/
theorem outcome_onFailure_of_error {cleanup : Action σ Empty Unit}
    (h : (a.run s).outcome = .error cause)
    (hcleanup : (cleanup.run (a.run s).state).outcome = .ok ()) :
    ((a.onFailure cleanup).run s).outcome = .error cause := by
  show (Action.onFailure a cleanup s).outcome = _
  simp only [Action.onFailure, cleanUp, h, hcleanup]
  rfl

end

end HugePool.Action
