import HugePool.Proofs.Journal.Ledger
import HugePool.Proofs.Pool.Creation

/-!
# What is undone when a pool is destroyed or not made

Making a pool exposes its huge pages one after the other.  When a step fails, what the steps before
it exposed is hidden again, and the pages are given back; destroying a pool does the same with a
whole pool.

A `Trace.Tidy` trace of a step of creation has exposed what its value owns, or undone everything.
Steps put one after the other are tidy again (`Trace.Tidy.bind`).  A step whose own failure leaves
nothing exposed but a faulty page is `Trace.Loose`, and becomes tidy by the cleanup that it runs
under (`Trace.Loose.onFailure`).

* `Pool.release_closes`: destroying a pool hides its pages and gives them back.
* `Pool.create_opens`: an attempt to make a pool leaves a pool that exposes its pages, or undoes
  what it did.
-/

namespace HugePool

variable {σ ε α β : Type}

/-! ### Exposures of a table -/

/-- The pages that records expose to a device. -/
def exposures (mapper : Option MapperId) (device : Device) (records : List PageRecord) :
    List Exposure :=
  match mapper with
  | some mapper => records.map fun r => ⟨r.virt, mapper, device, r.bus⟩
  | none => []

/-- The pages that a table exposes. -/
def PageTable.exposed (t : PageTable) : List Exposure := exposures t.mapper t.device t.records

theorem page_of_mem_exposures {mapper : Option MapperId} {device : Device}
    {records : List PageRecord} {e : Exposure} (he : e ∈ exposures mapper device records) :
    ∃ record ∈ records, record.virt = e.page := by
  cases mapper with
  | none => cases he
  | some mapper =>
    obtain ⟨record, hrecord, rfl⟩ := List.mem_map.mp he
    exact ⟨record, hrecord, rfl⟩

/-- Pages that follow one another are among those from the first one on. -/
theorem within_of_mem_exposures {mapper : Option MapperId} {device : Device}
    {records : List PageRecord} {start : VirtAddr} {len : UInt64} {pages : Nat}
    (hrecords : records.map (·.virt.toNat) =
      (List.range pages).map fun k => start.toNat + k * hugePageSize.toNat)
    (hlen : pages * hugePageSize.toNat ≤ len.toNat) {e : Exposure}
    (he : e ∈ exposures mapper device records) : e.Within start len := by
  obtain ⟨record, hrecord, hpage⟩ := page_of_mem_exposures he
  have hmem := List.mem_map_of_mem (f := fun r : PageRecord => r.virt.toNat) hrecord
  rw [hrecords] at hmem
  obtain ⟨k, hk, hvirt⟩ := List.mem_map.mp hmem
  have hnext : (k + 1) * hugePageSize.toNat ≤ pages * hugePageSize.toNat :=
    Nat.mul_le_mul_right _ (List.mem_range.mp hk)
  have hpos : 0 < hugePageSize.toNat := by decide
  rw [Nat.succ_mul] at hnext
  rw [Exposure.Within, ← hpage, ← hvirt]
  omega

/-! ### Calls to the platform -/

theorem Platform.run_resolve (p : Platform σ) (va : VirtAddr) (s : σ) :
    (p.resolve va).run s =
      ⟨[.translate va (p.translate va s).1], (p.translate va s).2,
        .ofExcept (p.translate va s).1⟩ := rfl

theorem Platform.run_requestBus (p : Platform σ) (mapper : MapperId) (device : Device)
    (phys : PhysAddr) (len : UInt64) (s : σ) :
    (p.requestBus mapper device phys len : Action σ ε _).run s =
      ⟨[.mapBus mapper device phys len (p.mapBus mapper device phys len s).1],
        (p.mapBus mapper device phys len s).2, .ok (p.mapBus mapper device phys len s).1⟩ := rfl

theorem Platform.run_returnBus (p : Platform σ) (mapper : MapperId) (device : Device)
    (bus : BusAddr) (len : UInt64) (s : σ) :
    (p.returnBus mapper device bus len : Action σ ε _).run s =
      ⟨[.unmapBus mapper device bus len (p.unmapBus mapper device bus len s).1],
        (p.unmapBus mapper device bus len s).2, .ok (p.unmapBus mapper device bus len s).1⟩ := rfl

/-- Giving pages back is one call, and perhaps a record about its failure. -/
theorem Platform.run_returnPages (p : Platform σ) (start : VirtAddr) (len : UInt64) (s : σ) :
    ∃ s' tail, (p.returnPages start len : Action σ ε Unit).run s
        = ⟨.unmapPages start len :: tail, s', .ok ()⟩ ∧ ∀ e ∈ tail, e.Plain ∧ e.Quiet := by
  rw [Platform.returnPages, Action.run_bind, Action.run_ask]
  show ∃ s' tail, Trace.mk ([] ++ (Action.run (_ >>= _) _).events) _ _ = _ ∧ _
  rw [Action.run_bind, Action.run_emit]
  rcases (p.unmapPages start len s).1 with _ | cause | cause
  · exact ⟨_, [], rfl, List.forall_mem_nil _⟩
  · exact ⟨_, [_], rfl, List.forall_mem_singleton.mpr ⟨trivial, trivial⟩⟩
  · exact ⟨_, [_], rfl, List.forall_mem_singleton.mpr ⟨trivial, trivial⟩⟩

/-! ### The end of a pool -/

/-- Unmapping records hides their pages, up to the first refusal. -/
theorem PageTable.unmapAll_hides (p : Platform σ) (mapper : MapperId) (device : Device)
    (records : List PageRecord) (s : σ) :
    Hides (exposures (some mapper) device records)
      ((PageTable.unmapAll p mapper device records).run s).events := by
  -- on the records that are left to unmap
  induction records generalizing s with
  | nil => exact Hides.nil
  | cons record rest ih =>
    rw [PageTable.unmapAll, Action.run_bind, Platform.run_returnBus]
    cases hanswer : (p.unmapBus mapper device record.bus hugePageSize s).1 with
    | ok _ =>
      exact (ih _).cons ⟨record.virt, mapper, device, record.bus⟩ hugePageSize
    | error cause =>
      exact Hides.refused ⟨record.virt, mapper, device, record.bus⟩ hugePageSize cause _

theorem PageTable.release_hides (p : Platform σ) (t : PageTable) (s : σ) :
    Hides t.exposed ((t.release p).run s).events := by
  rw [PageTable.release, PageTable.exposed]
  cases t.mapper with
  | none => exact Hides.nil
  | some mapper => exact PageTable.unmapAll_hides p mapper t.device t.records s

/-- Giving the pages of a region back leaves a record first. -/
theorem Region.run_release (p : Platform σ) (r : Region) (s : σ) :
    ∃ s' record tail, (r.release p).run s
        = ⟨.log record :: .unmapPages r.mapping r.mappedLen :: tail, s', .ok ()⟩ ∧
      ∀ e ∈ tail, e.Plain ∧ e.Quiet := by
  obtain ⟨s', tail, hrun, htail⟩ := p.run_returnPages (ε := Empty) r.mapping r.mappedLen s
  refine ⟨s', Notice.releasing r.mappedLen r.mapping, tail, ?_, htail⟩
  rw [Region.release, Action.run_bind]
  show Trace.mk ([_] ++ ((p.returnPages r.mapping r.mappedLen).run s).events)
    ((p.returnPages r.mapping r.mappedLen).run s).state
    ((p.returnPages r.mapping r.mappedLen).run s).outcome = _
  rw [hrun]
  rfl

/-! ### Steps of creation -/

/-- A step exposes what its value owns, on top of `base`, or undoes all of it. -/
def Trace.Tidy (start : VirtAddr) (len : UInt64) (base : List Exposure) (t : Trace σ ε α)
    (owned : α → List Exposure) : Prop :=
  match t.outcome with
  | .ok value => Quiet t.events ∧ Faultless t.events ∧
      ∃ made, Adds t.events made ∧ (made ++ base).Perm (owned value)
  | .abort => Quiet t.events
  | _ => Undoes start len base t.events

/-- A step exposes what its value owns, or nothing but perhaps one faulty page. -/
def Trace.Loose (start : VirtAddr) (len : UInt64) (base : List Exposure) (t : Trace σ ε α)
    (owned : α → List Exposure) : Prop :=
  Quiet t.events ∧
  match t.outcome with
  | .ok value => Faultless t.events ∧ ∃ made, Adds t.events made ∧ (made ++ base).Perm (owned value)
  | .abort => True
  | _ => (Adds t.events [] ∧ Faultless t.events) ∨
      ∃ e, Adds t.events [e] ∧ ¬ Faultless t.events ∧ e.Within start len

section

variable {start : VirtAddr} {len : UInt64} {base : List Exposure}

/-- A step that only looks around exposes nothing new, also when it fails. -/
theorem Trace.loose_of_plain {t : Trace σ ε α} {owned : α → List Exposure}
    (hplain : ∀ e ∈ t.events, e.Plain ∧ e.Quiet)
    (howned : ∀ value, t.outcome = .ok value → base.Perm (owned value)) :
    t.Loose start len base owned := by
  have hevents : ∀ e ∈ t.events, e.Plain := fun e he => (hplain e he).1
  have hadds := Adds.of_plain hevents
  have hfaultless := faultless_of_plain hevents
  refine ⟨fun e he => (hplain e he).2, ?_⟩
  cases hout : t.outcome with
  | ok value => exact ⟨hfaultless, [], hadds, howned value hout⟩
  | error cause => exact Or.inl ⟨hadds, hfaultless⟩
  | panic cause => exact Or.inl ⟨hadds, hfaultless⟩
  | abort => trivial

/-- Tidy steps one after the other are tidy. -/
theorem Trace.Tidy.bind {a : Action σ ε α} {next : α → Action σ ε β} {s : σ}
    {owned : α → List Exposure} {owned' : β → List Exposure}
    (ha : (a.run s).Tidy start len base owned)
    (hnext : ∀ value, (a.run s).outcome = .ok value →
      ((next value).run (a.run s).state).Tidy start len (owned value) owned') :
    ((a >>= next).run s).Tidy start len base owned' := by
  rw [Action.run_bind]
  cases hout : (a.run s).outcome with
  | error cause => simpa only [Trace.Tidy, hout] using ha
  | panic cause => simpa only [Trace.Tidy, hout] using ha
  | abort => simpa only [Trace.Tidy, hout] using ha
  | ok value =>
    simp only [Trace.Tidy, hout] at ha
    obtain ⟨hquiet, hfaultless, made, hadds, hperm⟩ := ha
    have hrest := hnext value hout
    simp only [Trace.Tidy] at hrest ⊢
    -- what the first step exposed is part of what the second one has to undo
    cases hout' : ((next value).run (a.run s).state).outcome with
    | ok value' =>
      simp only [hout'] at hrest ⊢
      obtain ⟨hquiet', hfaultless', made', hadds', hperm'⟩ := hrest
      refine ⟨quiet_append.mpr ⟨hquiet, hquiet'⟩, faultless_append.mpr ⟨hfaultless, hfaultless'⟩,
        made' ++ made, hadds.append hadds', ?_⟩
      rw [List.append_assoc]
      exact (hperm.append_left made').trans hperm'
    | abort =>
      simp only [hout'] at hrest ⊢
      exact quiet_append.mpr ⟨hquiet, hrest⟩
    | error cause =>
      simp only [hout'] at hrest ⊢
      exact (hrest.of_perm hperm).after_adds hadds hquiet hfaultless
    | panic cause =>
      simp only [hout'] at hrest ⊢
      exact (hrest.of_perm hperm).after_adds hadds hquiet hfaultless

/-- A loose step is tidy under a cleanup that hides what was exposed before. -/
theorem Trace.Loose.onFailure {a : Action σ ε α} {cleanup : Action σ Empty Unit} {s : σ}
    {owned : α → List Exposure} (ha : (a.run s).Loose start len base owned)
    (hbase : ∀ e ∈ base, e.Within start len)
    (hcleanup : ∀ s, Hides base (cleanup.run s).events) :
    ((a.onFailure cleanup).run s).Tidy start len base owned := by
  obtain ⟨hquiet, ha⟩ := ha
  have hundoes : Undoes start len base (cleanup.run (a.run s).state).events :=
    Undoes.of_hides (hcleanup _) hbase
  -- the events of the step and of its cleanup, when the step did not come to its end
  have hall : (Adds (a.run s).events [] ∧ Faultless (a.run s).events) ∨
        (∃ e, Adds (a.run s).events [e] ∧ ¬ Faultless (a.run s).events ∧ e.Within start len) →
      Undoes start len base ((a.run s).events ++ (cleanup.run (a.run s).state).events) := by
    rintro (⟨hadds, hfaultless⟩ | ⟨e, hadds, hfaulty, he⟩)
    · have hundoes' : Undoes start len ([] ++ base) _ := hundoes
      exact hundoes'.after_adds hadds hquiet hfaultless
    · exact hundoes.after_fault hadds hquiet hfaulty he
  show Trace.Tidy start len base (Action.onFailure a cleanup s) owned
  rw [Action.onFailure]
  cases hout : (a.run s).outcome with
  | ok value =>
    simp only [hout] at ha
    simp only [Trace.Tidy, hout]
    exact ⟨hquiet, ha⟩
  | abort =>
    simp only [Action.cleanUp, Trace.Tidy, hout]
    exact hquiet
  | error cause =>
    simp only [hout] at ha
    simp only [Action.cleanUp, hout, Trace.Tidy]
    cases (cleanup.run (a.run s).state).outcome with
    | error cause => exact cause.elim
    | ok _ => exact hall ha
    | panic _ => exact hall ha
    | abort => exact (hall ha).quiet
  | panic cause =>
    simp only [hout] at ha
    simp only [Action.cleanUp, hout, Trace.Tidy]
    cases (cleanup.run (a.run s).state).outcome with
    | error cause => exact cause.elim
    | ok _ => exact hall ha
    | panic _ => exact (hall ha).quiet
    | abort => exact (hall ha).quiet

end

/-! ### Plain steps -/

/-- The action neither exposes a page nor hides one, nor calls the source of pages. -/
def Action.Plain (a : Action σ ε α) : Prop := ∀ s, ∀ e ∈ (a.run s).events, e.Plain ∧ e.Quiet

namespace Action.Plain

theorem ofOutcome (o : Outcome ε α) : (Action.ofOutcome o : Action σ ε α).Plain :=
  fun _ _ he => nomatch he

theorem note (record : LogRecord) : (Action.note record : Action σ ε Unit).Plain :=
  fun _ => List.forall_mem_singleton.mpr ⟨trivial, trivial⟩

theorem bind {a : Action σ ε α} {next : α → Action σ ε β} (ha : a.Plain)
    (hnext : ∀ value, (next value).Plain) : (a >>= next).Plain := by
  intro s e he
  rw [Action.run_bind] at he
  cases hout : (a.run s).outcome with
  | ok value =>
    rw [hout] at he
    rcases List.mem_append.mp he with he | he
    · exact ha s e he
    · exact hnext value _ e he
  | error cause => rw [hout] at he; exact ha s e he
  | panic cause => rw [hout] at he; exact ha s e he
  | abort => rw [hout] at he; exact ha s e he

theorem requestMemory (p : Platform σ) (count size : Nat) : (p.requestMemory count size).Plain := by
  refine bind (fun _ _ he => nomatch he) fun granted => ?_
  split
  · exact ofOutcome _
  · exact ofOutcome _

theorem resolve (p : Platform σ) (va : VirtAddr) : (p.resolve va).Plain := by
  intro s
  rw [p.run_resolve]
  exact List.forall_mem_singleton.mpr ⟨trivial, trivial⟩

theorem resolveBase (p : Platform σ) (name : String) (va : VirtAddr) :
    (Pool.resolveBase p name va).Plain := by
  intro s e he
  have hresolve := resolve p va s
  have hrun : Pool.resolveBase p name va s = (Pool.resolveBase p name va).run s := rfl
  rw [← hrun, Pool.resolveBase] at he
  cases hout : ((p.resolve va).run s).outcome with
  | error cause =>
    simp only [hout] at he
    rcases List.mem_append.mp he with he | he
    · exact hresolve e he
    · rw [List.mem_singleton.mp he]
      exact ⟨trivial, trivial⟩
  | ok value => simp only [hout] at he; exact hresolve e he
  | panic cause => simp only [hout] at he; exact hresolve e he
  | abort => simp only [hout] at he; exact hresolve e he

theorem assemble (p : Platform σ) (config : Config) (g : Geometry) (payload : UInt64)
    (region : Region) (table : PageTable) :
    (Pool.assemble p config g payload region table).Plain :=
  (ofOutcome _).bind fun start => (resolveBase p config.name start).bind fun _ =>
    (requestMemory p _ _).bind fun _ => (ofOutcome _).bind fun _ => (note _).bind fun _ =>
      (ofOutcome _).bind fun _ => ofOutcome _

/-- A plain step that fails has nothing to undo. -/
theorem tidy {a : Action σ ε α} (ha : a.Plain) (start : VirtAddr) (len : UInt64) (s : σ) :
    (a.run s).Tidy start len [] fun _ => [] := by
  have hplain : ∀ e ∈ (a.run s).events, e.Plain := fun e he => (ha s e he).1
  have hquiet : Quiet (a.run s).events := fun e he => (ha s e he).2
  have hnothing : Undoes start len [] [] := .of_hides .nil (List.forall_mem_nil _)
  have hundoes := hnothing.after_plain (ha s)
  rw [List.append_nil] at hundoes
  rw [Trace.Tidy]
  cases (a.run s).outcome with
  | ok value =>
    exact ⟨hquiet, faultless_of_plain hplain, [], .of_plain hplain, List.Perm.refl _⟩
  | abort => exact hquiet
  | error cause => exact hundoes
  | panic cause => exact hundoes

end Action.Plain

/-! ### The way to a pool -/

namespace PageTable

theorem exposed_append (t : PageTable) (record : PageRecord) :
    ({ t with records := t.records ++ [record] } : PageTable).exposed
      = t.exposed ++ exposures t.mapper t.device [record] := by
  rw [exposed, exposed]
  cases t.mapper with
  | none => rfl
  | some mapper => exact List.map_append

/-- What a mapper answers about a page. -/
theorem run_busOf (p : Platform σ) (mapper : MapperId) (device : Device) (phys : PhysAddr) (s : σ) :
    (busOf p (some mapper) device phys : Action σ ε _).run s =
      match (p.mapBus mapper device phys hugePageSize s).1 with
      | .ok bus => ⟨[.mapBus mapper device phys hugePageSize (.ok bus)],
          (p.mapBus mapper device phys hugePageSize s).2, .ok bus⟩
      | .error cause => ⟨[.mapBus mapper device phys hugePageSize (.error cause),
            .log (Notice.mappingFailed phys cause)],
          (p.mapBus mapper device phys hugePageSize s).2, .panic (.busMappingFailed cause)⟩ := by
  rw [busOf, Action.run_bind, Platform.run_requestBus]
  cases (p.mapBus mapper device phys hugePageSize s).1 <;> rfl

/-- What is done with the bus address of a page: it is recorded, unless it has no room for the page.
-/
theorem run_record (phys : PhysAddr) (bus : BusAddr) (page : Nat) (device : Device)
    {virt : VirtAddr} (hv : virt.toNat + hugePageSize.toNat < UInt64.size) (s : σ) :
    ∃ record outcome,
      (if hb : bus.toNat + hugePageSize.toNat < UInt64.size then (do
        Action.note (Notice.recorded page virt phys bus)
        if hv : virt.toNat + hugePageSize.toNat < UInt64.size then
          return ⟨virt, bus, hv, hb⟩
        else
          Action.panic (.rangeOverflow virt.tagged hugePageSize))
      else
        failMapping phys (.overflow device phys bus) : Action σ CreateError PageRecord).run s =
          ⟨[.log record], s, outcome⟩ ∧
      ((∃ hb, outcome = .ok ⟨virt, bus, hv, hb⟩) ∨
        ((∃ cause, outcome = .panic cause) ∧ UInt64.size ≤ bus.toNat + hugePageSize.toNat)) := by
  by_cases hb : bus.toNat + hugePageSize.toNat < UInt64.size
  · rw [dif_pos hb, dif_pos hv]
    exact ⟨_, _, rfl, Or.inl ⟨hb, rfl⟩⟩
  · rw [dif_neg hb]
    exact ⟨_, _, rfl, Or.inr ⟨⟨_, rfl⟩, Nat.not_lt.mp hb⟩⟩

/-- Recording a page exposes it.  If it cannot be recorded after it was mapped, that is because its
bus address has no room for it. -/
theorem recordPage_loose (p : Platform σ) (t : PageTable) (start : VirtAddr) (len : UInt64)
    (page : Nat) (hfit : start.toNat + (page + 1) * hugePageSize.toNat < UInt64.size)
    (hlen : page * hugePageSize.toNat < len.toNat) (s : σ) :
    ((recordPage p t.mapper t.device start page).run s).Loose start len t.exposed
      fun record => ({ t with records := t.records ++ [record] } : PageTable).exposed := by
  rw [Nat.succ_mul] at hfit
  have hpage : page * 1 ≤ page * hugePageSize.toNat := Nat.mul_le_mul_left _ (by decide)
  obtain ⟨virt, hvirt, hnat⟩ := Pool.bufferAt_eq_ok (ε := CreateError) start hugePageSize page
    (by omega) (by omega)
  rw [Pool.bufferAt] at hvirt
  have hfits : virt.toNat + hugePageSize.toNat < UInt64.size := by omega
  have hwithin : start.toNat ≤ virt.toNat ∧ virt.toNat < start.toNat + len.toNat := by omega
  have hresolve : ((p.resolve virt).mapError CreateError.translate).run s =
      ⟨[.translate virt (p.translate virt s).1], (p.translate virt s).2,
        (Outcome.ofExcept (p.translate virt s).1).mapError .translate⟩ := rfl
  rw [recordPage, hvirt, Action.run_bind_of_ok (Action.run_ofOutcome _ _)]
  cases hphys : (p.translate virt s).1 with
  | error cause =>
    rw [hphys] at hresolve
    rw [Action.run_bind, hresolve]
    exact Trace.loose_of_plain (List.forall_mem_singleton.mpr ⟨trivial, trivial⟩)
      fun _ hvalue => by cases hvalue
  | ok phys =>
    rw [hphys] at hresolve
    rw [Action.run_bind_of_ok hresolve]
    simp only [exposed_append]
    cases t.mapper with
    | none =>
      -- the device sees the page at its physical address, and nothing is mapped
      have hbus : (busOf p none t.device phys : Action σ CreateError _).run (p.translate virt s).2
          = ⟨[], (p.translate virt s).2, .ok phys.toBus⟩ := rfl
      obtain ⟨record, outcome, hrecord, -⟩ :=
        run_record phys phys.toBus page t.device hfits (p.translate virt s).2
      rw [Action.run_bind_of_ok hbus, hrecord]
      refine Trace.loose_of_plain (fun e he => ?_) fun _ _ => ?_
      · rcases List.mem_cons.mp he with rfl | he
        · exact ⟨trivial, trivial⟩
        · rw [List.mem_singleton.mp he]
          exact ⟨trivial, trivial⟩
      · rw [exposures, List.append_nil]
    | some mapper =>
      have hbus := run_busOf (ε := CreateError) p mapper t.device phys (p.translate virt s).2
      cases hanswer : (p.mapBus mapper t.device phys hugePageSize (p.translate virt s).2).1 with
      | error cause =>
        rw [hanswer] at hbus
        rw [Action.run_bind, hbus]
        refine Trace.loose_of_plain ?_ fun _ hvalue => by cases hvalue
        simp [Event.Plain, Event.Quiet]
      | ok bus =>
        rw [hanswer] at hbus
        obtain ⟨record, outcome, hrecord, hcases⟩ := run_record phys bus page t.device hfits
          (p.mapBus mapper t.device phys hugePageSize (p.translate virt s).2).2
        rw [Action.run_bind_of_ok hbus, hrecord]
        have hlog : ∀ e ∈ [Event.log record], e.Plain := List.forall_mem_singleton.mpr trivial
        have hadds : Adds _ [⟨virt, mapper, t.device, bus⟩] :=
          (Adds.expose virt (.ok phys) mapper t.device phys hugePageSize bus).append
            (.of_plain hlog)
        refine ⟨by simp [Quiet, Event.Quiet], ?_⟩
        rcases hcases with ⟨hb, rfl⟩ | ⟨⟨_, rfl⟩, hb⟩
        · refine ⟨?_, _, hadds, List.perm_append_comm⟩
          simpa [Faultless, Event.Faulty] using hb
        · -- the page is mapped, but nobody remembers where
          refine Or.inr ⟨_, hadds, fun hfaultless => ?_, hwithin⟩
          exact hfaultless (.mapBus mapper t.device phys hugePageSize (.ok bus)) (by simp) hb

/-- The pages that are entered next are exposed, or nothing is left of the table. -/
theorem extend_tidy (p : Platform σ) (start : VirtAddr) (len : UInt64) (count : Nat) (t : PageTable)
    (hfit : start.toNat + (t.records.length + count) * hugePageSize.toNat < UInt64.size)
    (hlen : (t.records.length + count) * hugePageSize.toNat ≤ len.toNat)
    (hwithin : ∀ e ∈ t.exposed, e.Within start len) (s : σ) :
    ((extend p start t count).run s).Tidy start len t.exposed exposed := by
  -- what the pages before have exposed is the base that a failure of this one has to undo
  induction count generalizing t s with
  | zero =>
    exact ⟨List.forall_mem_nil _, List.forall_mem_nil _, [], Adds.of_plain (List.forall_mem_nil _),
      List.Perm.refl _⟩
  | succ count ih =>
    have hpos : 0 < hugePageSize.toNat := by decide
    have hnext : (t.records.length + 1) * hugePageSize.toNat
        ≤ (t.records.length + (count + 1)) * hugePageSize.toNat :=
      Nat.mul_le_mul_right _ (by omega)
    have hthis : t.records.length * hugePageSize.toNat < len.toNat := by
      rw [Nat.succ_mul] at hnext
      omega
    have hrecord := (recordPage_loose p t start len t.records.length (by omega) hthis s).onFailure
      hwithin (t.release_hides p)
    refine hrecord.bind fun record hok => ?_
    have hlength : (t.records ++ [record]).length + count = t.records.length + (count + 1) := by
      rw [List.length_append, List.length_singleton]
      omega
    refine ih { t with records := t.records ++ [record] } ?_ ?_ ?_ _
    · rw [hlength]
      exact hfit
    · rw [hlength]
      exact hlen
    · intro e he
      rw [exposed_append] at he
      rcases List.mem_append.mp he with he | he
      · exact hwithin e he
      · -- the page of the new record
        obtain ⟨_, hmem, hpage⟩ := page_of_mem_exposures he
        have hpages : (t.records.length + 1) * 1 ≤ (t.records.length + 1) * hugePageSize.toNat :=
          Nat.mul_le_mul_left _ hpos
        have hvirt := recordPage_eq_ok (by omega) (Action.run_onFailure_eq_ok_iff.mp hok)
        rw [List.mem_singleton.mp hmem] at hpage
        rw [Exposure.Within, ← hpage, hvirt]
        omega

/-- A table is built as a whole, or nothing is left of it. -/
theorem build_tidy (p : Platform σ) (mapper : Option MapperId) (device : Device) {start : VirtAddr}
    {len pages : UInt64} (hfit : start.toNat + pages.toNat * hugePageSize.toNat < UInt64.size)
    (hlen : pages.toNat * hugePageSize.toNat ≤ len.toNat) (s : σ) :
    ((build p mapper device start pages).run s).Tidy start len [] exposed := by
  have hempty : (⟨[], mapper, device⟩ : PageTable).exposed = [] := by cases mapper <;> rfl
  have hmemory := (Action.Plain.requestMemory p pages.toNat PageRecord.bytes).tidy start len s
  refine hmemory.bind fun _ _ => ?_
  have hextend := extend_tidy p start len pages.toNat ⟨[], mapper, device⟩
    (by rw [List.length_nil, Nat.zero_add]; exact hfit)
    (by rw [List.length_nil, Nat.zero_add]; exact hlen)
    (by rw [hempty]; exact List.forall_mem_nil _)
  rw [hempty] at hextend
  exact hextend _

end PageTable

/-- The pages of a region are exposed by a new pool, or none of them is. -/
theorem Pool.furnish_tidy (p : Platform σ) (mapper : Option MapperId) (config : Config)
    (g : Geometry) (payload : UInt64) {region : Region}
    (hfit : region.mapping.toNat + region.mappedLen.toNat < UInt64.size) (s : σ) :
    ((Pool.furnish p mapper config g payload region).run s).Tidy region.mapping region.mappedLen []
      fun pool => pool.table.exposed := by
  have hpages : region.pageCount.toNat * hugePageSize.toNat ≤ region.mappedLen.toNat := by
    rw [Region.pageCount, UInt64.toNat_div]
    exact Nat.div_mul_le_self _ _
  have hend : region.mapping.toNat + region.pageCount.toNat * hugePageSize.toNat < UInt64.size := by
    omega
  have hbuild := PageTable.build_tidy p mapper config.device hend hpages s
  refine hbuild.bind fun table htable => ?_
  have hwithin : ∀ e ∈ table.exposed, e.Within region.mapping region.mappedLen :=
    fun e he => within_of_mem_exposures (PageTable.build_eq_ok htable).2.2 hpages he
  have hplain := Action.Plain.assemble p config g payload region table
  refine (Trace.loose_of_plain (hplain _) fun pool hpool => ?_).onFailure hwithin
    (table.release_hides p)
  rw [(Pool.assemble_eq_ok hpool).2.2.1]

/-! ### Pools as a whole -/

/-- The huge pages that a pool holds. -/
def Pool.lease (pool : Pool) : Lease := ⟨pool.region.mapping, pool.region.mappedLen⟩

/-- What an intact pool exposes are its own pages. -/
theorem Pool.Intact.within {pool : Pool} (h : pool.Intact) {e : Exposure}
    (he : e ∈ pool.table.exposed) : e.Within pool.lease.start pool.lease.len :=
  within_of_mem_exposures h.pages (Nat.le_of_eq h.recorded.symm) he

/-- The trace undoes what was exposed and gives the pages back, unless the process aborts before. -/
def Trace.Closes (start : VirtAddr) (len : UInt64) (base : List Exposure) (t : Trace σ ε α) :
    Prop :=
  match t.outcome with
  | .abort => Quiet t.events
  | _ => Returns start len base t.events

/-- Destroying a pool hides its pages and gives them back. -/
theorem Pool.release_closes (p : Platform σ) {pool : Pool} (h : pool.Intact) (s : σ) :
    ((pool.release p).run s).Closes pool.lease.start pool.lease.len pool.table.exposed := by
  let record := Notice.destroying pool.name pool.available pool.geometry.bufferCount
    pool.region.mappedLen
  have hrun : (pool.release p).run s = Action.cleanUp ⟨[.log record], s, .ok ()⟩
    ((pool.table.release p).andThen (pool.region.release p)) := rfl
  have hinner : ((pool.table.release p).andThen (pool.region.release p)).run s
    = Action.cleanUp ((pool.table.release p).run s) (pool.region.release p) := rfl
  have hhides := pool.table.release_hides p s
  have hlog : ∀ e ∈ [Event.log record], e.Plain ∧ e.Quiet :=
    List.forall_mem_singleton.mpr ⟨trivial, trivial⟩
  have hundoes := (Undoes.of_hides hhides fun e he => h.within he).after_plain hlog
  obtain ⟨s', record', tail, hregion, htail⟩ :=
    pool.region.run_release p ((pool.table.release p).run s).state
  have hreturns : Returns pool.lease.start pool.lease.len pool.table.exposed
      ([.log record] ++ (((pool.table.release p).run s).events
        ++ .log record' :: .unmapPages pool.region.mapping pool.region.mappedLen :: tail)) :=
    ⟨_, record', tail, (List.append_assoc _ _ _).symm, hundoes, htail⟩
  rw [hrun, Action.cleanUp, hinner, Trace.Closes]
  -- the region is given back after the table, whether or not the table panicked
  cases hout : ((pool.table.release p).run s).outcome with
  | error cause => exact cause.elim
  | abort =>
    simp only [Action.cleanUp, hout]
    exact hundoes.quiet
  | ok value =>
    simp only [Action.cleanUp, hout, hregion]
    exact hreturns
  | panic cause =>
    simp only [Action.cleanUp, hout, hregion]
    exact hreturns

theorem Pool.Intact.with_free {pool : Pool} (h : pool.Intact) (free : FreeStack) :
    ({ pool with free := free } : Pool).Intact :=
  ⟨h.sound, h.aligned, h.recorded, h.base, h.pages⟩

/-- Returning a buffer makes no events, and changes the stack at most. -/
theorem Pool.run_giveBack_frame (va : VirtAddr) (pool : Pool) :
    ∃ free answer, (Pool.giveBack va).run pool
      = ⟨[], { pool with free := free }, .ofExcept answer⟩ := by
  show ∃ free answer, Pool.giveBack va pool = _
  rw [Pool.giveBack]
  cases pool.free.refusal? with
  | some cause => exact ⟨pool.free, .error cause, rfl⟩
  | none => exact ⟨pool.free.put va, .ok (), rfl⟩

theorem Pool.run_giveBackSingle (p : Platform σ) {pool : Pool} {buffer : Buffer} {free : FreeStack}
    {answer : Except StackError Unit}
    (hrun : (giveBack buffer.virt).run pool = ⟨[], { pool with free := free }, .ofExcept answer⟩)
    (s : σ) : (pool.giveBackSingle p buffer).run s =
      Action.cleanUp ⟨[], s, .ofExcept answer⟩ (({ pool with free := free } : Pool).release p) := by
  show Action.cleanUp ⟨((Pool.giveBack buffer.virt).run pool).events, s,
    ((Pool.giveBack buffer.virt).run pool).outcome⟩
      (((Pool.giveBack buffer.virt).run pool).state.release p) = _
  rw [hrun]

/-- A pool whose last buffer is not taken back is destroyed all the same. -/
theorem Pool.giveBackSingle_closes (p : Platform σ) {pool : Pool} (h : pool.Intact)
    (buffer : Buffer) (s : σ) :
    ((pool.giveBackSingle p buffer).run s).Closes pool.lease.start pool.lease.len
      pool.table.exposed := by
  obtain ⟨free, answer, hrun⟩ := pool.run_giveBack_frame buffer.virt
  have hcloses := Pool.release_closes p (h.with_free free) s
  rw [Pool.run_giveBackSingle p hrun]
  rw [Trace.Closes] at hcloses ⊢
  -- the answer about the buffer matters only when the rest goes well
  cases answer <;> simp only [Action.cleanUp, Outcome.ofExcept]
  all_goals
    cases hout : ((({ pool with free := free } : Pool).release p).run s).outcome with
    | error cause => exact cause.elim
    | ok _ => rw [hout] at hcloses; exact hcloses
    | panic _ => rw [hout] at hcloses; exact hcloses
    | abort => rw [hout] at hcloses; exact hcloses

/-- Asking for pages is one call, perhaps after a record, and ends as it is answered. -/
theorem Platform.run_requestPages (p : Platform σ) (len : UInt64) (s : σ) :
    ∃ before, (p.requestPages len).run s =
        ⟨before ++ [.mapPages len (p.mapPages len s).1.answer], (p.mapPages len s).2,
          .ofExcept (p.mapPages len s).1.answer⟩ ∧
      ∀ e ∈ before, ∃ cause, e = .log (Notice.retrying len cause) := by
  rw [Platform.requestPages, Action.run_bind, Action.run_ask]
  generalize (p.mapPages len s).1 = reply
  rcases reply with ⟨_ | cause, answer⟩
  · exact ⟨[], rfl, List.forall_mem_nil _⟩
  · exact ⟨[.log (Notice.retrying len cause)], rfl, List.forall_mem_singleton.mpr ⟨_, rfl⟩⟩

/-- What becomes of pages that were handed out: they are a region, unless they are at a wrong
address. -/
theorem Region.run_enter (len header : UInt64) (mapping : VirtAddr) (s : σ) :
    (do
      Action.ofOutcome (.require (mapping.offsetIn .huge = 0) .misalignedPages)
      Action.note (Notice.mapped (len / hugePageSize) mapping)
      return ⟨mapping, header, Memory.zero.storeWord 0 len⟩ : Action σ PagesError Region).run s =
    if mapping.offsetIn .huge = 0 then
      ⟨[.log (Notice.mapped (len / hugePageSize) mapping)], s,
        .ok ⟨mapping, header, Memory.zero.storeWord 0 len⟩⟩
    else ⟨[], s, .panic .misalignedPages⟩ := by
  by_cases haligned : mapping.offsetIn .huge = 0
  · rw [Outcome.require_pos haligned, if_pos haligned]
    rfl
  · rw [Outcome.require_neg haligned, if_neg haligned]
    rfl

/-- Mapping a region is one call, with nothing exposed or hidden. -/
theorem Region.allocate_events (p : Platform σ) (payload header : UInt64) (s : σ) :
    (∀ e ∈ ((Region.allocate p payload header).run s).events, e.Plain) ∧
    ∀ leases, match ((Region.allocate p payload header).run s).outcome with
      | .ok region => outstanding leases ((Region.allocate p payload header).run s).events
          = ⟨region.mapping, region.mappedLen⟩ :: leases
      | _ => ∃ lost, outstanding leases ((Region.allocate p payload header).run s).events
          = lost ++ leases := by
  rw [Region.allocate]
  by_cases hheader : wordBytes ≤ header
  case neg =>
    rw [Outcome.require_neg hheader]
    exact ⟨List.forall_mem_nil _, fun leases => ⟨[], rfl⟩⟩
  rw [Outcome.require_pos hheader, Action.run_bind_of_ok (Action.run_ofOutcome _ _)]
  cases hlen : Region.lengthFor payload header with
  | error cause => exact ⟨List.forall_mem_nil _, fun leases => ⟨[], rfl⟩⟩
  | panic cause => exact ⟨List.forall_mem_nil _, fun leases => ⟨[], rfl⟩⟩
  | abort => exact ⟨List.forall_mem_nil _, fun leases => ⟨[], rfl⟩⟩
  | ok len =>
    obtain ⟨before, hrun, hlogs⟩ := p.run_requestPages len s
    generalize (p.mapPages len s).1.answer = answer at hrun
    have hbefore : ∀ e ∈ before, e.Plain ∧ e.Quiet := by
      intro e he
      obtain ⟨cause, rfl⟩ := hlogs e he
      exact ⟨trivial, trivial⟩
    have hplain : ∀ e ∈ before ++ [.mapPages len answer], e.Plain :=
      List.forall_mem_append.mpr
        ⟨fun e he => (hbefore e he).1, List.forall_mem_singleton.mpr trivial⟩
    have hleases : ∀ leases, outstanding leases (before ++ [.mapPages len answer])
        = (Event.mapPages len answer).lease leases := by
      intro leases
      rw [outstanding_append, outstanding_of_quiet fun e he => (hbefore e he).2]
      rfl
    rw [Action.run_bind_of_ok (Action.run_ofOutcome _ _)]
    cases answer with
    | error cause =>
      rw [Action.run_bind, hrun]
      exact ⟨hplain, fun leases => ⟨[], hleases leases⟩⟩
    | ok mapping =>
      rw [Action.run_bind_of_ok hrun, Region.run_enter]
      by_cases haligned : mapping.offsetIn .huge = 0
      · -- the length that is written into the first word is that of the lease
        have hword : (Memory.zero.storeWord 0 len).word 0 = len := Memory.word_storeWord _ _ _
        have hlog : ∀ e ∈ [Event.log (Notice.mapped (len / hugePageSize) mapping)],
            e.Plain ∧ e.Quiet := List.forall_mem_singleton.mpr ⟨trivial, trivial⟩
        have hall : ∀ e ∈ (before ++ [.mapPages len (.ok mapping)])
            ++ [Event.log (Notice.mapped (len / hugePageSize) mapping)], e.Plain :=
          List.forall_mem_append.mpr ⟨hplain, fun e he => (hlog e he).1⟩
        rw [if_pos haligned]
        refine ⟨hall, fun leases => ?_⟩
        show outstanding leases ((before ++ [.mapPages len (.ok mapping)]) ++ _)
          = ⟨mapping, (Memory.zero.storeWord 0 len).word 0⟩ :: leases
        rw [outstanding_append, hleases, outstanding_of_quiet fun e he => (hlog e he).2, hword]
        rfl
      · -- pages at a wrong address are lost
        rw [if_neg haligned, List.append_nil]
        exact ⟨hplain, fun leases => ⟨[_], hleases leases⟩⟩

/-- Nothing is left of what was handed out, unless it was lost before anybody was told of it. -/
inductive Undone (leases : List Lease) (events : List Event) : Prop where
  | lost (pages : List Lease) (plain : ∀ e ∈ events, e.Plain)
      (outstanding_eq : outstanding leases events = pages ++ leases)
  | returned (lease : Lease) (first second : List Event) (events_eq : events = first ++ second)
      (plain : ∀ e ∈ first, e.Plain) (outstanding_eq : outstanding leases first = lease :: leases)
      (returns : Returns lease.start lease.len [] second)

/-- An attempt to make a pool leaves a pool that exposes its pages and holds them, or nothing. -/
def Trace.Opens (leases : List Lease) (t : Trace σ ε α) (pool : α → Pool) : Prop :=
  match t.outcome with
  | .ok value => Faultless t.events ∧
      (∃ made, Adds t.events made ∧ made.Perm (pool value).table.exposed) ∧
      outstanding leases t.events = (pool value).lease :: leases
  | .abort => ∀ l, ∃ l', Ledger.Run l t.events l'
  | _ => Undone leases t.events

/-- An attempt that fails before a page is exposed has nothing to undo. -/
theorem Trace.opens_of_plain {leases : List Lease} {t : Trace σ ε α} {pool : α → Pool}
    (hplain : ∀ e ∈ t.events, e.Plain) (hfailed : ∀ value, t.outcome ≠ .ok value)
    (hlost : ∃ lost, outstanding leases t.events = lost ++ leases) : t.Opens leases pool := by
  obtain ⟨lost, hlost⟩ := hlost
  rw [Trace.Opens]
  cases hout : t.outcome with
  | ok value => exact absurd hout (hfailed value)
  | abort => exact (Adds.of_plain hplain).exists_run
  | error cause => exact .lost lost hplain hlost
  | panic cause => exact .lost lost hplain hlost

theorem Pool.region_of_furnish {p : Platform σ} {mapper : Option MapperId} {config : Config}
    {g : Geometry} {payload : UInt64} {region : Region} {s : σ} {pool : Pool}
    (h : ((Pool.furnish p mapper config g payload region).run s).outcome = .ok pool) :
    pool.region = region := by
  obtain ⟨table, -, h⟩ := Action.run_bind_eq_ok_iff.mp h
  exact (Pool.assemble_eq_ok (Action.run_onFailure_eq_ok_iff.mp h)).2.1

/-- A region becomes a pool, or is given back. -/
theorem Pool.furnish_opens (p : Platform σ) (mapper : Option MapperId) (config : Config)
    (g : Geometry) (payload : UInt64) {region : Region} {leases : List Lease} {first : List Event}
    (hfirst : ∀ e ∈ first, e.Plain)
    (hlease : outstanding leases first = ⟨region.mapping, region.mappedLen⟩ :: leases)
    (hfit : region.mapping.toNat + region.mappedLen.toNat < UInt64.size) (s : σ) :
    let t := ((Pool.furnish p mapper config g payload region).onFailure (region.release p)).run s
    (⟨first ++ t.events, t.state, t.outcome⟩ : Trace σ CreateError Pool).Opens leases id := by
  intro t
  have htidy := Pool.furnish_tidy p mapper config g payload hfit s
  have hadds := Adds.of_plain hfirst
  obtain ⟨s', record, tail, hrelease, htail⟩ :=
    region.run_release p ((Pool.furnish p mapper config g payload region).run s).state
  have ht : t = Action.onFailure (Pool.furnish p mapper config g payload region)
    (region.release p) s := rfl
  rw [Action.onFailure] at ht
  rw [Trace.Tidy] at htidy
  cases hout : ((Pool.furnish p mapper config g payload region).run s).outcome with
  | ok pool =>
    simp only [hout] at ht htidy
    obtain ⟨hquiet, hfaultless, made, hmade, hperm⟩ := htidy
    have hregion := Pool.region_of_furnish hout
    rw [Trace.Opens, ht, hout]
    refine ⟨faultless_append.mpr ⟨faultless_of_plain hfirst, hfaultless⟩,
      ⟨_, hadds.append hmade, hperm⟩, ?_⟩
    show outstanding leases (first ++ _) = pool.lease :: leases
    rw [outstanding_append, hlease, outstanding_of_quiet hquiet, Pool.lease, hregion]
  | abort =>
    simp only [hout, Action.cleanUp] at ht htidy
    rw [Trace.Opens, ht, hout]
    intro l
    obtain ⟨next, hnext⟩ := hadds.exists_run l
    obtain ⟨l', hrun⟩ := Ledger.exists_run_of_quiet htidy next
    exact ⟨l', Ledger.run_append.mpr ⟨next, hnext, hrun⟩⟩
  | error cause =>
    simp only [hout, Action.cleanUp, hrelease, Outcome.afterCleanup_ok] at ht htidy
    rw [Trace.Opens, ht]
    exact .returned _ first _ rfl hfirst hlease ⟨_, record, tail, rfl, htidy, htail⟩
  | panic cause =>
    simp only [hout, Action.cleanUp, hrelease, Outcome.afterCleanup_ok] at ht htidy
    rw [Trace.Opens, ht]
    exact .returned _ first _ rfl hfirst hlease ⟨_, record, tail, rfl, htidy, htail⟩

/-- **Creation**: a new pool exposes its pages without a fault and holds them.  When it is not made,
what was exposed is undone and the pages are given back. -/
theorem Pool.create_opens (p : Platform σ) (mapper : Option MapperId) (config : Config) (s : σ)
    {leases : List Lease} (hleases : Separate leases)
    (hunaliased : Unaliased leases ((Pool.create p mapper config).run s).events) :
    ((Pool.create p mapper config).run s).Opens leases id := by
  rw [Pool.create] at hunaliased ⊢
  cases hgeometry : config.geometry with
  | error cause => exact Trace.opens_of_plain (List.forall_mem_nil _) nofun ⟨[], rfl⟩
  | panic cause => exact Trace.opens_of_plain (List.forall_mem_nil _) nofun ⟨[], rfl⟩
  | abort => exact Trace.opens_of_plain (List.forall_mem_nil _) nofun ⟨[], rfl⟩
  | ok g =>
  rw [hgeometry, Action.ofOutcome_ok_bind] at hunaliased
  rw [Action.ofOutcome_ok_bind]
  cases hpayload : (g.payloadLen : Outcome CreateError UInt64) with
  | error cause => exact Trace.opens_of_plain (List.forall_mem_nil _) nofun ⟨[], rfl⟩
  | panic cause => exact Trace.opens_of_plain (List.forall_mem_nil _) nofun ⟨[], rfl⟩
  | abort => exact Trace.opens_of_plain (List.forall_mem_nil _) nofun ⟨[], rfl⟩
  | ok payload =>
  rw [hpayload, Action.ofOutcome_ok_bind] at hunaliased
  rw [Action.ofOutcome_ok_bind]
  obtain ⟨hplain, houtstanding⟩ := Region.allocate_events p payload g.headerOffset s
  have hlease := houtstanding leases
  have hrun : ((Region.allocate p payload g.headerOffset).mapError CreateError.hugePages).run s =
    ⟨((Region.allocate p payload g.headerOffset).run s).events,
      ((Region.allocate p payload g.headerOffset).run s).state,
      ((Region.allocate p payload g.headerOffset).run s).outcome.mapError .hugePages⟩ := rfl
  cases hout : ((Region.allocate p payload g.headerOffset).run s).outcome with
  | error cause =>
    rw [hout] at hrun hlease
    rw [Action.run_bind, hrun]
    exact Trace.opens_of_plain hplain nofun hlease
  | panic cause =>
    rw [hout] at hrun hlease
    rw [Action.run_bind, hrun]
    exact Trace.opens_of_plain hplain nofun hlease
  | abort =>
    rw [hout] at hrun hlease
    rw [Action.run_bind, hrun]
    exact Trace.opens_of_plain hplain nofun hlease
  | ok region =>
    rw [hout] at hrun hlease
    rw [Action.run_bind_of_ok hrun] at hunaliased ⊢
    -- the pages of the region end at an address, as all that are handed out do
    have hseparate := hleases.outstanding (unaliased_append.mp hunaliased).1
    rw [hlease] at hseparate
    have hfit := hseparate.1 ⟨region.mapping, region.mappedLen⟩ List.mem_cons_self
    exact Pool.furnish_opens p mapper config g payload hplain hlease hfit _

end HugePool
