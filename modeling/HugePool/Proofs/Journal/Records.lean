import HugePool.Proofs.Pool.Refusals

/-!
# Records beside the calls

A journal has the records that were logged in between the calls.  This module says of which kinds
they are, and where they stand: how often a record of a level is logged, whether a call that goes
wrong at a mapper is followed by an error record, and which records come between an error record
and the end of a run that panicked.

A panic is not an event, so that a journal does not show where it starts.  What follows its start is
known, however: these are the cleanups that the panic runs on its way out, and nothing else.
`Platform.Unwinding` describes a journal that an error record and such cleanups end.

* `Trace.Candid` says how often a run informs, and that it tells of everything that goes wrong at a
  mapper.  `Candid.bind`, `Candid.mapError` and `Candid.onFailure` follow the operators.
* `Trace.Looks` says how many translations a run asks for, and at which of them it fails.
-/

namespace HugePool

variable {σ ε ε' α β : Type}

/-! ### Kinds of events -/

namespace Event

/-- The level of the record that an event is. -/
def level? (e : Event) : Option LogLevel := e.record?.map (·.level)

/-- The answer to the translation that an event is. -/
def resolved? : Event → Option (Except TranslateError PhysAddr)
  | .translate _ answer => some answer
  | _ => none

/-- A mapper refuses a call, or maps a page where there is no room for it. -/
def Troubled : Event → Prop
  | .mapBus _ _ _ _ (.error _) => True
  | e => e.Faulty

/-- Neither a translation nor a piece of information.  It may be a warning, but about nothing but
the source of huge pages. -/
def Aside : Event → Prop
  | .translate _ _ => False
  | .log record =>
    record.level ≠ .info ∧ (record.level = .warn → record.origin = Notice.pagesOrigin)
  | _ => True

theorem Aside.resolved?_eq_none {e : Event} (h : e.Aside) : e.resolved? = none := by
  cases e with
  | translate _ _ => exact h.elim
  | _ => rfl

theorem Aside.level?_ne_info {e : Event} (h : e.Aside) : e.level? ≠ some .info := by
  cases e with
  | log record => exact fun hlevel => h.1 (Option.some.inj hlevel)
  | _ => exact nofun

section

variable {record : LogRecord}

theorem aside_of_error (h : record.level = .error) : (Event.log record).Aside := by
  simp [Aside, h]

theorem aside_of_debug (h : record.level = .debug) : (Event.log record).Aside := by
  simp [Aside, h]

theorem aside_of_pages (h : record.level = .warn) (horigin : record.origin = Notice.pagesOrigin) :
    (Event.log record).Aside := by
  simp [Aside, h, horigin]

end

end Event

/-- The number of records of a level. -/
def recordCount (level : LogLevel) (events : List Event) : Nat :=
  events.countP (·.level? = some level)

/-- The answers to the translations of a journal. -/
def answersOf (events : List Event) : List (Except TranslateError PhysAddr) :=
  events.filterMap (·.resolved?)

/-- Something other than the source of huge pages is worth a warning. -/
def Warned (events : List Event) : Prop :=
  ∃ record, .log record ∈ events ∧ record.level = .warn ∧ record.origin ≠ Notice.pagesOrigin

/-- Whatever goes wrong at a mapper is told at once, with an error record. -/
def Flagged : List Event → Prop
  | [] => True
  | e :: rest =>
    (e.Troubled → ∃ record, rest.head? = some (.log record) ∧ record.level = .error) ∧ Flagged rest

theorem recordCount_append (level : LogLevel) (first second : List Event) :
    recordCount level (first ++ second) = recordCount level first + recordCount level second :=
  List.countP_append

theorem recordCount_of_aside {events : List Event} (h : ∀ e ∈ events, e.Aside) :
    recordCount .info events = 0 :=
  List.countP_eq_zero.mpr fun e he => by simpa using (h e he).level?_ne_info

theorem answersOf_append (first second : List Event) :
    answersOf (first ++ second) = answersOf first ++ answersOf second := List.filterMap_append

theorem answersOf_of_aside {events : List Event} (h : ∀ e ∈ events, e.Aside) :
    answersOf events = [] :=
  List.filterMap_eq_nil_iff.mpr fun e he => (h e he).resolved?_eq_none

theorem not_warned_of_aside {events : List Event} (h : ∀ e ∈ events, e.Aside) :
    ¬ Warned events := by
  rintro ⟨record, hmem, hlevel, horigin⟩
  exact horigin ((h _ hmem).2 hlevel)

theorem warned_append {first second : List Event} :
    Warned (first ++ second) ↔ Warned first ∨ Warned second := by
  unfold Warned
  constructor
  · rintro ⟨record, hmem, hwarns⟩
    exact (List.mem_append.mp hmem).imp (fun h => ⟨record, h, hwarns⟩) fun h => ⟨record, h, hwarns⟩
  · rintro (⟨record, hmem, hwarns⟩ | ⟨record, hmem, hwarns⟩)
    · exact ⟨record, List.mem_append_left _ hmem, hwarns⟩
    · exact ⟨record, List.mem_append_right _ hmem, hwarns⟩

theorem Flagged.append {first second : List Event} (hfirst : Flagged first)
    (hsecond : Flagged second) : Flagged (first ++ second) := by
  induction first with
  | nil => exact hsecond
  | cons e rest ih =>
    refine ⟨fun htroubled => ?_, ih hfirst.2⟩
    obtain ⟨record, hhead, hlevel⟩ := hfirst.1 htroubled
    refine ⟨record, ?_, hlevel⟩
    show (rest ++ second).head? = _
    rw [List.head?_append, hhead, Option.some_or]

theorem flagged_of_forall {events : List Event} (h : ∀ e ∈ events, ¬ e.Troubled) :
    Flagged events := by
  induction events with
  | nil => trivial
  | cons e rest ih =>
    obtain ⟨he, hrest⟩ := List.forall_mem_cons.mp h
    exact ⟨fun htroubled => (he htroubled).elim, ih hrest⟩

/-- There are `count` translations, and all succeed. -/
def Translated (events : List Event) (count : Nat) : Prop :=
  ∃ frames : List PhysAddr, answersOf events = frames.map .ok ∧ frames.length = count

/-- After `count` translations that succeed there is one that does not, and `after` is what comes
then. -/
def FailsAfter (events : List Event) (cause : TranslateError) (count : Nat) (after : List Event) :
    Prop :=
  ∃ before va, events = before ++ .translate va (.error cause) :: after ∧ Translated before count

theorem Translated.append {first second : List Event} {m n : Nat} (hfirst : Translated first m)
    (hsecond : Translated second n) : Translated (first ++ second) (m + n) := by
  obtain ⟨frames, hframes, rfl⟩ := hfirst
  obtain ⟨frames', hframes', rfl⟩ := hsecond
  refine ⟨frames ++ frames', ?_, List.length_append⟩
  rw [answersOf_append, hframes, hframes', List.map_append]

theorem translated_of_aside {events : List Event} (h : ∀ e ∈ events, e.Aside) :
    Translated events 0 := ⟨[], answersOf_of_aside h, rfl⟩

theorem FailsAfter.prepend {events first after : List Event} {cause : TranslateError} {m n : Nat}
    (h : FailsAfter events cause n after) (hfirst : Translated first m) :
    FailsAfter (first ++ events) cause (m + n) after := by
  obtain ⟨before, va, rfl, hbefore⟩ := h
  exact ⟨first ++ before, va, (List.append_assoc ..).symm, hfirst.append hbefore⟩

theorem FailsAfter.extend {events after : List Event} {cause : TranslateError} {n : Nat}
    (h : FailsAfter events cause n after) (more : List Event) :
    FailsAfter (events ++ more) cause n (after ++ more) := by
  obtain ⟨before, va, rfl, hbefore⟩ := h
  exact ⟨before, va, List.append_assoc .., hbefore⟩

/-! ### Cleanups and panics -/

/-- The cleanups of making and destroying a pool. -/
inductive Platform.Cleanup (p : Platform σ) : Action σ Empty Unit → Prop where
  | table (t : PageTable) : p.Cleanup (t.release p)
  | region (r : Region) : p.Cleanup (r.release p)

/-- After an error record nothing is left to do but cleanups, which all come to their end. -/
inductive Platform.Unwinding (p : Platform σ) : List Event → σ → Prop where
  | started (before : List Event) (record : LogRecord) (s : σ) (hlevel : record.level = .error) :
    p.Unwinding (before ++ [.log record]) s
  | cleaned {events : List Event} {s : σ} {cleanup : Action σ Empty Unit}
    (h : p.Unwinding events s) (hcleanup : p.Cleanup cleanup)
    (hok : (cleanup.run s).outcome = .ok ()) :
    p.Unwinding (events ++ (cleanup.run s).events) (cleanup.run s).state

/-- The last event is an error record. -/
def EndsInError (events : List Event) : Prop :=
  ∃ before record, events = before ++ [.log record] ∧ record.level = .error

theorem EndsInError.prepend {events : List Event} (h : EndsInError events) (first : List Event) :
    EndsInError (first ++ events) := by
  obtain ⟨before, record, rfl, hlevel⟩ := h
  exact ⟨first ++ before, record, (List.append_assoc ..).symm, hlevel⟩

theorem EndsInError.unwinding {p : Platform σ} {events : List Event} (h : EndsInError events)
    (s : σ) : p.Unwinding events s := by
  obtain ⟨before, record, rfl, hlevel⟩ := h
  exact .started before record s hlevel

theorem Platform.Unwinding.prepend {p : Platform σ} {events : List Event} {s : σ}
    (h : p.Unwinding events s) (first : List Event) : p.Unwinding (first ++ events) s := by
  induction h with
  | started before record s hlevel =>
    rw [← List.append_assoc]
    exact .started (first ++ before) record s hlevel
  | cleaned _ hcleanup hok ih =>
    rw [← List.append_assoc]
    exact ih.cleaned hcleanup hok

/-- The panic is about a page that a mapper did not map or did not unmap. -/
def Panic.OfMapper : Panic → Prop
  | .busMappingFailed _ => True
  | .busUnmappingFailed _ => True
  | _ => False

/-- A panic because of a mapper starts right after an error record.  A process that aborts, which a
second panic makes it do, has such a record last. -/
def Trace.Announced (p : Platform σ) (t : Trace σ ε α) : Prop :=
  match t.outcome with
  | .panic cause => cause.OfMapper → p.Unwinding t.events t.state
  | .abort => EndsInError t.events
  | _ => True

/-- The run tells of what goes wrong at a mapper, and informs `count` times if it comes to its end,
but not at all if it does not. -/
structure Trace.Candid (p : Platform σ) (count : Nat) (t : Trace σ ε α) : Prop where
  flagged : Flagged t.events
  announced : t.Announced p
  informed : recordCount .info t.events = match t.outcome with
    | .ok _ => count
    | _ => 0

/-- What a cleanup does, call by call: it gives back, up to the first refusal to unmap a page. -/
inductive Clearing : List Event → Outcome Empty Unit → Prop where
  | done : Clearing [] (.ok ())
  | next {rest : List Event} {outcome : Outcome Empty Unit} (e : Event) (haside : e.Aside)
    (hcalm : ¬ e.Troubled) (h : Clearing rest outcome) : Clearing (e :: rest) outcome
  | refused (mapper : MapperId) (device : Device) (bus : BusAddr) (len : UInt64)
    (cause : BusError) :
    Clearing [.unmapBus mapper device bus len (.error cause),
      .log (Notice.unmappingFailed bus device cause)] (.panic (.busUnmappingFailed cause))

theorem PageTable.unmapAll_clearing (p : Platform σ) (mapper : MapperId) (device : Device)
    (records : List PageRecord) (s : σ) :
    Clearing ((unmapAll p mapper device records).run s).events
      ((unmapAll p mapper device records).run s).outcome := by
  -- on the records that are left to unmap
  induction records generalizing s with
  | nil => exact .done
  | cons record rest ih =>
    rw [unmapAll, Action.run_bind_of_ok (p.run_returnBus mapper device record.bus hugePageSize s)]
    cases (p.unmapBus mapper device record.bus hugePageSize s).1 with
    | ok _ => exact .next _ trivial id (ih _)
    | error cause => exact .refused mapper device record.bus hugePageSize cause

theorem Platform.returnPages_clearing (p : Platform σ) (start : VirtAddr) (len : UInt64) (s : σ) :
    Clearing ((p.returnPages start len : Action σ Empty Unit).run s).events
      ((p.returnPages start len : Action σ Empty Unit).run s).outcome := by
  rw [Platform.returnPages, Action.run_bind_of_ok (Action.run_ask _ _),
    Action.run_bind_of_ok (Action.run_emit _ _)]
  rcases (p.unmapPages start len s).1 with _ | cause | cause
  · exact .next _ trivial id .done
  · exact .next _ trivial id (.next _ (Event.aside_of_pages rfl rfl) id .done)
  · exact .next _ trivial id (.next _ (Event.aside_of_pages rfl rfl) id .done)

namespace Platform.Cleanup

variable {p : Platform σ} {cleanup : Action σ Empty Unit}

theorem clearing (h : p.Cleanup cleanup) (s : σ) :
    Clearing (cleanup.run s).events (cleanup.run s).outcome := by
  cases h with
  | table t =>
    unfold PageTable.release
    cases t.mapper with
    | none => exact .done
    | some mapper => exact PageTable.unmapAll_clearing p mapper t.device t.records s
  | region r =>
    rw [Region.release, Action.note, Action.run_bind_of_ok (Action.run_emit _ _)]
    exact .next _ (Event.aside_of_debug rfl) id (p.returnPages_clearing r.mapping r.mappedLen s)

end Platform.Cleanup

namespace Clearing

variable {events : List Event} {outcome : Outcome Empty Unit}

/-- A cleanup comes to its end, or panics right after an error record. -/
theorem ends (h : Clearing events outcome) :
    outcome = .ok () ∨ (∃ cause, outcome = .panic cause) ∧ EndsInError events := by
  induction h with
  | done => exact Or.inl rfl
  | next e _ _ _ ih => exact ih.imp_right (And.imp_right fun hends => hends.prepend [e])
  | refused mapper device bus len cause =>
    exact Or.inr ⟨⟨_, rfl⟩, [.unmapBus mapper device bus len (.error cause)], _, rfl, rfl⟩

/-- A cleanup does no more than give back, and warns of nothing but the source of huge pages. -/
theorem aside (h : Clearing events outcome) : ∀ e ∈ events, e.Aside := by
  induction h with
  | done => exact List.forall_mem_nil _
  | next _ haside _ _ ih => exact List.forall_mem_cons.mpr ⟨haside, ih⟩
  | refused =>
    exact List.forall_mem_cons.mpr
      ⟨trivial, List.forall_mem_singleton.mpr (Event.aside_of_error rfl)⟩

theorem flagged (h : Clearing events outcome) : Flagged events := by
  induction h with
  | done => trivial
  | next _ _ hcalm _ ih => exact ⟨fun htroubled => (hcalm htroubled).elim, ih⟩
  | refused => exact ⟨fun _ => ⟨_, rfl, rfl⟩, fun htroubled => htroubled.elim, trivial⟩

end Clearing

/-! ### Candid runs -/

namespace Trace

variable {p : Platform σ} {count : Nat} {t : Trace σ ε α}

theorem Announced.prepend (h : t.Announced p) (first : List Event) :
    (⟨first ++ t.events, t.state, t.outcome⟩ : Trace σ ε α).Announced p := by
  unfold Announced at h ⊢
  cases hout : t.outcome with
  | ok _ => trivial
  | error _ => trivial
  | panic cause =>
    rw [hout] at h
    exact fun hcause => (h hcause).prepend first
  | abort =>
    rw [hout] at h
    exact h.prepend first

theorem candid_of_uninformed (hflagged : Flagged t.events) (hannounced : t.Announced p)
    (huninformed : recordCount .info t.events = 0) : t.Candid p 0 where
  flagged := hflagged
  announced := hannounced
  informed := by
    rw [huninformed]
    cases t.outcome <;> rfl

/-- A run that has no trouble with a mapper panics for other reasons. -/
theorem announced_of_calm (hpanic : ∀ cause, t.outcome = .panic cause → ¬ cause.OfMapper)
    (habort : t.outcome ≠ .abort) : t.Announced p := by
  unfold Announced
  cases hout : t.outcome with
  | ok _ => trivial
  | error _ => trivial
  | panic cause => exact fun hcause => (hpanic cause hout hcause).elim
  | abort => exact (habort hout).elim

/-- It does not matter of how much a run would inform that does not come to its end. -/
theorem Candid.recount (h : t.Candid p count) (hfailed : ∀ value, t.outcome ≠ .ok value)
    (count' : Nat) : t.Candid p count' where
  flagged := h.flagged
  announced := h.announced
  informed := by
    have hinformed := h.informed
    cases hout : t.outcome with
    | ok value => exact (hfailed value hout).elim
    | error _ => rw [hout] at hinformed; exact hinformed
    | panic _ => rw [hout] at hinformed; exact hinformed
    | abort => rw [hout] at hinformed; exact hinformed

theorem Candid.uninformed (h : t.Candid p 0) : recordCount .info t.events = 0 := by
  rw [h.informed]
  cases t.outcome <;> rfl

theorem Candid.mapError {a : Action σ ε α} {s : σ} (h : (a.run s).Candid p count) (f : ε → ε') :
    ((a.mapError f).run s).Candid p count := by
  have hrun : (a.mapError f).run s =
    ⟨(a.run s).events, (a.run s).state, (a.run s).outcome.mapError f⟩ := rfl
  obtain ⟨hflagged, hannounced, hinformed⟩ := h
  unfold Announced at hannounced
  rw [hrun]
  refine ⟨hflagged, ?_, ?_⟩
  · unfold Announced
    cases hout : (a.run s).outcome <;> rw [hout] at hannounced <;> exact hannounced
  · rw [hinformed]
    cases (a.run s).outcome <;> rfl

theorem candid_of_cleanup {cleanup : Action σ Empty Unit} (h : p.Cleanup cleanup) (s : σ) :
    (cleanup.run s).Candid p 0 := by
  have hclearing := h.clearing s
  refine candid_of_uninformed hclearing.flagged ?_ (recordCount_of_aside hclearing.aside)
  unfold Announced
  obtain hok | ⟨⟨cause, hpanic⟩, hends⟩ := hclearing.ends
  · rw [hok]
    trivial
  · rw [hpanic]
    exact fun _ => hends.unwinding _

/-- What goes before informs of nothing. -/
theorem Candid.bind {a : Action σ ε α} {next : α → Action σ ε β} {s : σ}
    (ha : (a.run s).Candid p 0)
    (hnext : ∀ value, (a.run s).outcome = .ok value →
      ((next value).run (a.run s).state).Candid p count) :
    ((a >>= next).run s).Candid p count := by
  rw [Action.run_bind]
  have huninformed := ha.uninformed
  obtain ⟨hflagged, hannounced, -⟩ := ha
  unfold Announced at hannounced
  cases hout : (a.run s).outcome with
  | ok value =>
    have hrest := hnext value hout
    refine ⟨hflagged.append hrest.flagged, hrest.announced.prepend _, ?_⟩
    show recordCount .info (_ ++ _) = _
    rw [recordCount_append, huninformed, Nat.zero_add]
    exact hrest.informed
  | error cause => exact ⟨hflagged, trivial, huninformed⟩
  | panic cause =>
    rw [hout] at hannounced
    exact ⟨hflagged, hannounced, huninformed⟩
  | abort =>
    rw [hout] at hannounced
    exact ⟨hflagged, hannounced, huninformed⟩

theorem Candid.cleanUp {cleanup : Action σ Empty Unit} (ht : t.Candid p 0)
    (hcleanup : p.Cleanup cleanup) : (Action.cleanUp t cleanup).Candid p 0 := by
  by_cases habort : t.outcome = .abort
  · rw [Action.cleanUp, habort]
    exact ht
  have hclearing := hcleanup.clearing t.state
  have hannounced := ht.announced
  rw [Action.cleanUp_of_ne_abort cleanup habort]
  refine candid_of_uninformed (ht.flagged.append hclearing.flagged) ?_ ?_
  · unfold Announced at hannounced ⊢
    obtain hok | ⟨⟨cause, hpanic⟩, hends⟩ := hclearing.ends
    · -- the panic of the run goes on with the cleanup
      cases hout : t.outcome with
      | ok _ => rw [hok]; trivial
      | error _ => rw [hok]; trivial
      | abort => exact (habort hout).elim
      | panic cause =>
        rw [hout] at hannounced
        rw [hok]
        exact fun hcause => (hannounced hcause).cleaned hcleanup hok
    · -- a panic of the cleanup is the first one, or aborts
      rw [hpanic]
      cases hout : t.outcome with
      | ok _ => exact fun _ => (hends.unwinding _).prepend _
      | error _ => exact fun _ => (hends.unwinding _).prepend _
      | panic _ => exact hends.prepend _
      | abort => exact (habort hout).elim
  · show recordCount .info (_ ++ _) = _
    rw [recordCount_append, ht.uninformed, recordCount_of_aside hclearing.aside]

theorem Candid.onFailure {a : Action σ ε α} {cleanup : Action σ Empty Unit} {s : σ}
    (ha : (a.run s).Candid p count) (hcleanup : p.Cleanup cleanup) :
    ((a.onFailure cleanup).run s).Candid p count := by
  by_cases hok : ∃ value, (a.run s).outcome = .ok value
  · obtain ⟨value, hok⟩ := hok
    rw [Action.run_onFailure_of_ok hok]
    exact ha
  · have hfailed := not_exists.mp hok
    have hcleaned := (ha.recount hfailed 0).cleanUp hcleanup
    rw [← Action.run_onFailure_of_ne_ok hfailed] at hcleaned
    refine hcleaned.recount (fun value hvalue => ?_) count
    exact hfailed value (Action.run_onFailure_eq_ok_iff.mp hvalue)

/-! ### Translations -/

/-- The run asks for `count` translations.  If it fails because of one of them, nothing that follows
is worth mentioning. -/
def Looks (count : Nat) (t : Trace σ CreateError α) : Prop :=
  match t.outcome with
  | .ok _ => Translated t.events count
  | .error (.translate cause) =>
    ∃ done after, FailsAfter t.events cause done after ∧ (∀ e ∈ after, e.Aside) ∧ done < count
  | _ => True

theorem Looks.bind {m n : Nat} {a : Action σ CreateError α} {next : α → Action σ CreateError β}
    {s : σ} (ha : (a.run s).Looks m)
    (hnext : ∀ value, (a.run s).outcome = .ok value →
      ((next value).run (a.run s).state).Looks n) : ((a >>= next).run s).Looks (m + n) := by
  rw [Action.run_bind]
  unfold Looks at ha hnext ⊢
  cases hout : (a.run s).outcome with
  | panic _ => trivial
  | abort => trivial
  | error cause =>
    rw [hout] at ha
    cases cause with
    | translate cause =>
      obtain ⟨done, after, hfails, haside, hlt⟩ := ha
      exact ⟨done, after, hfails, haside, Nat.lt_add_right n hlt⟩
    | _ => trivial
  | ok value =>
    rw [hout] at ha
    have hrest := hnext value hout
    cases hout' : ((next value).run (a.run s).state).outcome with
    | panic _ => trivial
    | abort => trivial
    | ok _ =>
      rw [hout'] at hrest
      exact ha.append hrest
    | error cause =>
      rw [hout'] at hrest
      cases cause with
      | translate cause =>
        obtain ⟨done, after, hfails, haside, hlt⟩ := hrest
        exact ⟨m + done, after, hfails.prepend ha, haside, Nat.add_lt_add_left hlt m⟩
      | _ => trivial

/-- If the run fails because of a translation, this is one of `count + 1`, and there is a warning
after it if and only if it is the last of them. -/
def Warns (count : Nat) (t : Trace σ CreateError α) : Prop :=
  ∀ cause, t.outcome = .error (.translate cause) → ∃ done after,
    FailsAfter t.events cause done after ∧ answersOf after = [] ∧ done ≤ count ∧
      (Warned after ↔ done = count)

end Trace

/-- A run that fails with an error under a cleanup fails with this error by itself, and the cleanup
comes to its end after it. -/
theorem Action.run_onFailure_eq_error {a : Action σ ε α} {cleanup : Action σ Empty Unit} {s : σ}
    {cause : ε} (h : ((a.onFailure cleanup).run s).outcome = .error cause) :
    (a.run s).outcome = .error cause ∧ ((a.onFailure cleanup).run s).events =
      (a.run s).events ++ (cleanup.run (a.run s).state).events := by
  by_cases hok : ∃ value, (a.run s).outcome = .ok value
  · obtain ⟨value, hok⟩ := hok
    rw [run_onFailure_of_ok hok, hok] at h
    cases h
  rw [run_onFailure_of_ne_ok (not_exists.mp hok)] at h ⊢
  by_cases habort : (a.run s).outcome = .abort
  · rw [cleanUp, habort] at h
    cases h.symm.trans habort
  rw [cleanUp_of_ne_abort cleanup habort] at h ⊢
  refine ⟨?_, rfl⟩
  -- a cleanup leaves an error alone or puts something else in its place
  revert h
  show (a.run s).outcome.afterCleanup (cleanup.run (a.run s).state).outcome = _ → _
  cases (cleanup.run (a.run s).state).outcome with
  | ok _ => exact fun h => by rwa [Outcome.afterCleanup_ok] at h
  | error cause => exact cause.elim
  | abort => rintro ⟨⟩
  | panic _ => cases (a.run s).outcome <;> rintro ⟨⟩

theorem Action.run_bind_eq_error {a : Action σ ε α} {next : α → Action σ ε β} {s : σ} {cause : ε}
    (h : ((a >>= next).run s).outcome = .error cause) :
    ((a.run s).outcome = .error cause ∧ ((a >>= next).run s).events = (a.run s).events) ∨
    ∃ value, (a.run s).outcome = .ok value ∧
      ((next value).run (a.run s).state).outcome = .error cause ∧
      ((a >>= next).run s).events
        = (a.run s).events ++ ((next value).run (a.run s).state).events := by
  rw [run_bind] at h ⊢
  cases hout : (a.run s).outcome with
  | ok value =>
    rw [hout] at h
    exact Or.inr ⟨value, rfl, h, rfl⟩
  | error cause' =>
    rw [hout] at h
    cases h
    exact Or.inl ⟨rfl, rfl⟩
  | panic _ =>
    rw [hout] at h
    cases h
  | abort =>
    rw [hout] at h
    cases h

namespace Trace

variable {p : Platform σ} {count : Nat} {a : Action σ CreateError α}
  {cleanup : Action σ Empty Unit} {s : σ}

theorem Looks.onFailure (ha : (a.run s).Looks count) (hcleanup : p.Cleanup cleanup) :
    ((a.onFailure cleanup).run s).Looks count := by
  unfold Looks at ha ⊢
  cases hout : ((a.onFailure cleanup).run s).outcome with
  | panic _ => trivial
  | abort => trivial
  | ok value =>
    have hok := Action.run_onFailure_eq_ok_iff.mp hout
    rw [hok] at ha
    rw [Action.run_onFailure_of_ok hok]
    exact ha
  | error cause =>
    cases cause with
    | translate cause =>
      obtain ⟨herror, hevents⟩ := Action.run_onFailure_eq_error hout
      rw [herror] at ha
      obtain ⟨done, after, hfails, haside, hlt⟩ := ha
      rw [hevents]
      refine ⟨done, _, hfails.extend _, ?_, hlt⟩
      exact List.forall_mem_append.mpr ⟨haside, (hcleanup.clearing _).aside⟩
    | _ => trivial

theorem Warns.onFailure (ha : (a.run s).Warns count) (hcleanup : p.Cleanup cleanup) :
    ((a.onFailure cleanup).run s).Warns count := by
  intro cause hout
  obtain ⟨herror, hevents⟩ := Action.run_onFailure_eq_error hout
  obtain ⟨done, after, hfails, hanswers, hle, hiff⟩ := ha cause herror
  have haside := (hcleanup.clearing (a.run s).state).aside
  rw [hevents]
  refine ⟨done, _, hfails.extend _, ?_, hle, ?_⟩
  · rw [answersOf_append, hanswers, answersOf_of_aside haside]
    rfl
  · rw [warned_append, or_iff_left (not_warned_of_aside haside)]
    exact hiff

/-- The translations before the last one come first. -/
theorem Looks.bind_warns {m n : Nat} {next : α → Action σ CreateError β} (ha : (a.run s).Looks m)
    (hnext : ∀ value, (a.run s).outcome = .ok value →
      ((next value).run (a.run s).state).Warns n) : ((a >>= next).run s).Warns (m + n) := by
  intro cause hout
  unfold Looks at ha
  obtain ⟨herror, hevents⟩ | ⟨value, hok, herror, hevents⟩ := Action.run_bind_eq_error hout
  · rw [herror] at ha
    obtain ⟨done, after, hfails, haside, hlt⟩ := ha
    rw [hevents]
    refine ⟨done, after, hfails, answersOf_of_aside haside, by omega, ?_⟩
    exact iff_of_false (not_warned_of_aside haside) (by omega)
  · rw [hok] at ha
    obtain ⟨done, after, hfails, hanswers, hle, hiff⟩ := hnext value hok cause herror
    rw [hevents]
    refine ⟨m + done, after, hfails.prepend ha, hanswers, by omega, ?_⟩
    rw [hiff]
    exact (Nat.add_right_inj).symm

end Trace

end HugePool
