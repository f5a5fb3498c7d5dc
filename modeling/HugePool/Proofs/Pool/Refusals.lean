import HugePool.Proofs.Pool.Attempt
import HugePool.Proofs.Pool.Unwinding

/-!
# How making a pool breaks off

Making a pool fails with an error when its source of pages or the resolver refuses something.  It
panics only because of a mapper, and it aborts only because of one that refuses twice, first to map
a page and then to unmap another one.  What the mapper refused is on record in either case.

* `Trace.Breaks` says because of which refusals a run may break off; `Trace.Breaks.bind`,
  `Trace.Breaks.cleanUp` and `Trace.Breaks.onFailure` follow the operators.
* `Region.run_allocate_of_sound`: asking for the region of a sound geometry is one call, and
  `Region.Ends` as the source of pages answers it.
* `PageTable.extend_breaks`, `Pool.assemble_breaks` and `Pool.create_breaks` go from the pages to
  the whole pool, and `Pool.release_breaks` back.

All of this needs that the arithmetic on the way does not panic.  The geometry has room for its
pages and buffers below the end of the mapping, and the mapping ends at an address.
-/

namespace HugePool

variable {σ ε α β : Type}

/-- It is on record that a page could not be mapped for a device. -/
def MappingRefused (events : List Event) : Prop :=
  ∃ phys cause, .log (Notice.mappingFailed phys cause) ∈ events

/-- It is on record that a page could not be unmapped from a device. -/
def UnmappingRefused (events : List Event) : Prop :=
  ∃ bus device cause, .log (Notice.unmappingFailed bus device cause) ∈ events

theorem MappingRefused.mono {events events' : List Event} (h : MappingRefused events)
    (hsub : events ⊆ events') : MappingRefused events' := by
  obtain ⟨phys, cause, hmem⟩ := h
  exact ⟨phys, cause, hsub hmem⟩

theorem UnmappingRefused.mono {events events' : List Event} (h : UnmappingRefused events)
    (hsub : events ⊆ events') : UnmappingRefused events' := by
  obtain ⟨bus, device, cause, hmem⟩ := h
  exact ⟨bus, device, cause, hsub hmem⟩

/-- The panic of a run with these events is about a page that could not be mapped. -/
def Panic.AtMapping (cause : Panic) (events : List Event) : Prop :=
  (∃ refusal, cause = .busMappingFailed refusal) ∧ MappingRefused events

/-- The panic of a run with these events is about a page that could not be unmapped. -/
def Panic.AtUnmapping (cause : Panic) (events : List Event) : Prop :=
  (∃ refusal, cause = .busUnmappingFailed refusal) ∧ UnmappingRefused events

/-- A run does not break off but because of refusals to map a page, if these are admitted, and of
refusals to unmap one, if those are. -/
structure Trace.Breaks (t : Trace σ ε α) (mapping unmapping : Prop) : Prop where
  panicked : ∀ cause, t.outcome = .panic cause →
    mapping ∧ cause.AtMapping t.events ∨ unmapping ∧ cause.AtUnmapping t.events
  aborted : t.outcome = .abort →
    (mapping ∧ unmapping) ∧ MappingRefused t.events ∧ UnmappingRefused t.events

/-! ### Operators -/

/-- What a cleanup makes of a run, unless the process aborted. -/
theorem Action.cleanUp_of_ne_abort {t : Trace σ ε α} (cleanup : Action σ Empty Unit)
    (h : t.outcome ≠ .abort) :
    Action.cleanUp t cleanup =
      ⟨t.events ++ (cleanup.run t.state).events, (cleanup.run t.state).state,
        t.outcome.afterCleanup (cleanup.run t.state).outcome⟩ := by
  unfold Action.cleanUp
  split
  · exact absurd ‹_› h
  · rfl

namespace Trace

variable {mapping unmapping unmapping' : Prop} {t : Trace σ ε α}

theorem breaks_of_ok {value : α} (h : t.outcome = .ok value) : t.Breaks mapping unmapping where
  panicked _ hcause := by cases h.symm.trans hcause
  aborted habort := by cases h.symm.trans habort

theorem breaks_of_error {cause : ε} (h : t.outcome = .error cause) :
    t.Breaks mapping unmapping where
  panicked _ hcause := by cases h.symm.trans hcause
  aborted habort := by cases h.symm.trans habort

theorem breaks_of_settled (h : t.outcome.Settled) : t.Breaks mapping unmapping := by
  cases hout : t.outcome with
  | ok value => exact breaks_of_ok hout
  | error cause => exact breaks_of_error hout
  | panic cause =>
    rw [hout] at h
    exact h.elim
  | abort =>
    rw [hout] at h
    exact h.elim

/-- More refusals may be admitted. -/
theorem Breaks.imp {mapping' : Prop} (h : t.Breaks mapping unmapping)
    (hmapping : mapping → mapping') (hunmapping : unmapping → unmapping') :
    t.Breaks mapping' unmapping' where
  panicked cause hcause := (h.panicked cause hcause).imp (And.imp_left hmapping)
    (And.imp_left hunmapping)
  aborted habort := (h.aborted habort).imp_left (And.imp hmapping hunmapping)

/-- What broke off a part is on record in the whole. -/
theorem Breaks.extend {ε' : Type} {t' : Trace σ ε' β} (h : t.Breaks mapping unmapping)
    (hevents : t.events ⊆ t'.events)
    (hpanic : ∀ cause, t'.outcome = .panic cause → t.outcome = .panic cause)
    (habort : t'.outcome = .abort → t.outcome = .abort) : t'.Breaks mapping unmapping where
  panicked cause hcause := (h.panicked cause (hpanic cause hcause)).imp
    (fun hmapping => ⟨hmapping.1, hmapping.2.1, hmapping.2.2.mono hevents⟩)
    fun hunmapping => ⟨hunmapping.1, hunmapping.2.1, hunmapping.2.2.mono hevents⟩
  aborted haborted :=
    have hrefused := h.aborted (habort haborted)
    ⟨hrefused.1, hrefused.2.1.mono hevents, hrefused.2.2.mono hevents⟩

/-- What breaks off a part breaks off the whole. -/
theorem Breaks.bind {a : Action σ ε α} {next : α → Action σ ε β} {s : σ}
    (ha : (a.run s).Breaks mapping unmapping)
    (hnext : ∀ value, (a.run s).outcome = .ok value →
      ((next value).run (a.run s).state).Breaks mapping unmapping) :
    ((a >>= next).run s).Breaks mapping unmapping := by
  rw [Action.run_bind]
  cases hout : (a.run s).outcome with
  | ok value =>
    exact (hnext value hout).extend (List.subset_append_right _ _) (fun _ h => h) fun h => h
  | error cause => exact breaks_of_error rfl
  | panic cause =>
    refine ha.extend (List.Subset.refl _) (fun _ h => ?_) nofun
    cases h
    exact hout
  | abort => exact ha.extend (List.Subset.refl _) nofun fun _ => hout

/-- A cleanup may only meet refusals to unmap, and only where nothing before it met one.  Two panics
are one refusal of either kind. -/
theorem Breaks.cleanUp {cleanup : Action σ Empty Unit} (ht : t.Breaks mapping unmapping)
    (hcleanup : ∀ s, (cleanup.run s).Breaks False unmapping') (hone : unmapping → ¬ unmapping') :
    (Action.cleanUp t cleanup).Breaks mapping (unmapping ∨ unmapping') := by
  have hafter := hcleanup t.state
  have hleft := List.subset_append_left t.events (cleanup.run t.state).events
  have hright := List.subset_append_right t.events (cleanup.run t.state).events
  have himp := ht.imp id (Or.inl (b := unmapping'))
  have hclean : (cleanup.run t.state).outcome ≠ .abort := fun habort => (hafter.aborted habort).1.1
  by_cases habort : t.outcome = .abort
  · rw [Action.cleanUp, habort]
    exact himp
  rw [Action.cleanUp_of_ne_abort cleanup habort]
  cases hcleaned : (cleanup.run t.state).outcome with
  | error cause => exact cause.elim
  | abort => exact (hclean hcleaned).elim
  | ok _ =>
    rw [Outcome.afterCleanup_ok]
    exact himp.extend hleft (fun _ => id) id
  | panic cause =>
    cases hout : t.outcome with
    | abort => exact (habort hout).elim
    | ok _ =>
      refine (hafter.imp False.elim Or.inr).extend hright (fun _ h => ?_) fun h => ?_
      · cases h
        exact hcleaned
      · cases h
    | error _ =>
      refine (hafter.imp False.elim Or.inr).extend hright (fun _ h => ?_) fun h => ?_
      · cases h
        exact hcleaned
      · cases h
    | panic cause' =>
      -- a second panic aborts; the cleanup met a refusal to unmap, so the first one was to map
      refine ⟨fun _ h => (by cases h), fun _ => ?_⟩
      obtain hnever | ⟨hu', -, hunmapping⟩ := hafter.panicked cause hcleaned
      · exact hnever.1.elim
      obtain ⟨hm, -, hmapping⟩ | ⟨hu, -⟩ := ht.panicked cause' hout
      · exact ⟨⟨hm, Or.inr hu'⟩, hmapping.mono hleft, hunmapping.mono hright⟩
      · exact (hone hu hu').elim

theorem Breaks.onFailure {a : Action σ ε α} {cleanup : Action σ Empty Unit} {s : σ}
    (ha : (a.run s).Breaks mapping unmapping)
    (hcleanup : ∀ s, (cleanup.run s).Breaks False unmapping') (hone : unmapping → ¬ unmapping') :
    ((a.onFailure cleanup).run s).Breaks mapping (unmapping ∨ unmapping') := by
  by_cases hok : ∃ value, (a.run s).outcome = .ok value
  · obtain ⟨value, hok⟩ := hok
    rw [Action.run_onFailure_of_ok hok]
    exact breaks_of_ok hok
  · rw [Action.run_onFailure_of_ne_ok (not_exists.mp hok)]
    exact ha.cleanUp hcleanup hone

end Trace

/-! ### Pages -/

namespace PageTable

/-- Unmapping breaks off at the first refusal. -/
theorem release_breaks (p : Platform σ) (t : PageTable) (s : σ) :
    ((t.release p).run s).Breaks False True := by
  unfold release
  cases t.mapper with
  | none => exact Trace.breaks_of_ok rfl
  | some mapper =>
    simp only
    -- on the records that are left to unmap
    induction t.records generalizing s with
    | nil => exact Trace.breaks_of_ok rfl
    | cons record rest ih =>
      rw [unmapAll]
      refine (Trace.breaks_of_ok rfl).bind fun answer _ => ?_
      cases answer with
      | ok _ => exact ih _
      | error cause =>
        refine ⟨fun _ h => ?_, fun h => by cases h⟩
        cases h
        exact Or.inr ⟨trivial, ⟨cause, rfl⟩, _, _, cause, List.mem_singleton.mpr rfl⟩

theorem failMapping_breaks (phys : PhysAddr) (cause : BusError) (s : σ) :
    ((failMapping phys cause : Action σ ε α).run s).Breaks True False where
  panicked _ h := by
    cases h
    exact Or.inl ⟨trivial, ⟨cause, rfl⟩, phys, cause, List.mem_singleton.mpr rfl⟩
  aborted := nofun

theorem busOf_breaks (p : Platform σ) (mapper : Option MapperId) (device : Device) (phys : PhysAddr)
    (s : σ) : ((busOf p mapper device phys : Action σ ε BusAddr).run s).Breaks True False := by
  unfold busOf
  cases mapper with
  | none => exact Trace.breaks_of_ok rfl
  | some mapper =>
    refine (Trace.breaks_of_ok rfl).bind fun answer _ => ?_
    cases answer with
    | ok bus => exact Trace.breaks_of_ok rfl
    | error cause => exact failMapping_breaks phys cause _

/-- A page with room below the end of the addresses breaks off only when it cannot be mapped. -/
theorem recordPage_breaks (p : Platform σ) (mapper : Option MapperId) (device : Device)
    (start : VirtAddr) (page : Nat)
    (hfit : start.toNat + (page + 1) * hugePageSize.toNat < UInt64.size) (s : σ) :
    ((recordPage p mapper device start page).run s).Breaks True False := by
  rw [Nat.succ_mul] at hfit
  have hpage : page * 1 ≤ page * hugePageSize.toNat := Nat.mul_le_mul_left _ (by decide)
  obtain ⟨virt, hvirt, hnat⟩ := Pool.bufferAt_eq_ok (ε := CreateError) start hugePageSize page
    (by omega) (by omega)
  have hend : virt.toNat + hugePageSize.toNat < UInt64.size := by omega
  have hresolve : (((p.resolve virt).mapError CreateError.translate).run s).outcome.Settled := by
    show ((Outcome.ofExcept (p.translate virt s).1).mapError CreateError.translate).Settled
    cases (p.translate virt s).1 <;> trivial
  rw [Pool.bufferAt] at hvirt
  rw [recordPage, hvirt, Action.ofOutcome_ok_bind]
  refine (Trace.breaks_of_settled hresolve).bind fun phys _ => ?_
  refine (busOf_breaks p mapper device phys _).bind fun bus _ => ?_
  split
  · exact Trace.breaks_of_ok rfl
  · exact failMapping_breaks phys _ _

/-- The pages that are entered next break off at the first that cannot be mapped, and perhaps at one
before it that cannot be unmapped again. -/
theorem extend_breaks (p : Platform σ) {start : VirtAddr} (count : Nat) (t : PageTable)
    (hfit : start.toNat + (t.records.length + count) * hugePageSize.toNat < UInt64.size) (s : σ) :
    ((extend p start t count).run s).Breaks True True := by
  -- on the number of pages that are left, for the table that the pages before have left
  induction count generalizing t s with
  | zero => exact Trace.breaks_of_ok rfl
  | succ count ih =>
    have hnext : (t.records.length + 1) * hugePageSize.toNat
        ≤ (t.records.length + (count + 1)) * hugePageSize.toNat :=
      Nat.mul_le_mul_right _ (by omega)
    have hpage := recordPage_breaks p t.mapper t.device start t.records.length (by omega) s
    have hundone := hpage.onFailure (t.release_breaks p) False.elim
    rw [false_or] at hundone
    rw [extend]
    refine hundone.bind fun record _ => ih _ ?_ _
    rwa [List.length_append, List.length_singleton, Nat.add_assoc, Nat.add_comm 1]

end PageTable

/-! ### The region and the pool -/

/-- Giving a region back never breaks off. -/
theorem Region.release_breaks (p : Platform σ) (r : Region) (s : σ) :
    ((r.release p).run s).Breaks False False := by
  obtain ⟨_, _, _, hrun, -⟩ := Region.run_release p r s
  exact Trace.breaks_of_ok (congrArg Trace.outcome hrun)

/-- Where the arithmetic of its geometry has its place, asking for a region ends as the source of
pages answers.  A region that is handed out has the length and the number of pages of the
geometry. -/
inductive Region.Ends (g : Geometry) (len : UInt64) :
    Except PagesError VirtAddr → Outcome PagesError Region → Prop where
  | refused (cause : PagesError) : Ends g len (.error cause) (.error cause)
  | misaligned (mapping : VirtAddr) (hmapping : ¬ hugePageSize.toNat ∣ mapping.toNat) :
    Ends g len (.ok mapping) (.panic .misalignedPages)
  | mapped (region : Region) (haligned : hugePageSize.toNat ∣ region.mapping.toNat)
      (hheader : region.headerOffset = g.headerOffset) (hlen : region.mappedLen = len)
      (hcount : region.pageCount = g.hugePages) : Ends g len (.ok region.mapping) (.ok region)

theorem Platform.requestMemory_breaks (p : Platform σ) (count size : Nat) (s : σ) :
    ((p.requestMemory count size).run s).Breaks False False := by
  refine (Trace.breaks_of_ok rfl).bind fun granted _ => ?_
  cases granted with
  | true => exact Trace.breaks_of_ok rfl
  | false => exact Trace.breaks_of_error rfl

section

variable {g : Geometry} {payload len : UInt64}

/-- Asking for the region of a sound geometry is one call, for the length of its huge pages. -/
theorem Region.run_allocate_of_sound (p : Platform σ) (hg : g.Sound)
    (hpayload : payload.toNat = g.bufferSize.toNat * g.bufferCount.toNat)
    (hlen : len.toNat = g.hugePages.toNat * hugePageSize.toNat) (s : σ) :
    callsOf ((Region.allocate p payload g.headerOffset).run s).events
        = [.mapPages len (p.mapPages len s).1.answer] ∧
      Region.Ends g len (p.mapPages len s).1.answer
        ((Region.allocate p payload g.headerOffset).run s).outcome := by
  rw [Region.allocate, Outcome.require_pos hg.wordBytes_le, Action.ofOutcome_ok_bind,
    Region.lengthFor_of_sound hg hpayload hlen, Action.ofOutcome_ok_bind]
  obtain ⟨before, hrun, hlogs⟩ := p.run_requestPages len s
  generalize (p.mapPages len s).1.answer = answer at hrun ⊢
  have hcalls : callsOf (before ++ [.mapPages len answer]) = [.mapPages len answer] := by
    have hbefore : callsOf before = [] := by
      refine List.filter_eq_nil_iff.mpr fun e he => ?_
      obtain ⟨cause, rfl⟩ := hlogs e he
      exact Bool.false_ne_true
    rw [callsOf_append, hbefore]
    rfl
  cases answer with
  | error cause =>
    rw [Action.run_bind, hrun]
    exact ⟨hcalls, .refused cause⟩
  | ok mapping =>
    rw [Action.run_bind_of_ok hrun, Region.run_enter]
    by_cases haligned : mapping.offsetIn .huge = 0
    · rw [if_pos haligned]
      -- the word that is read back is the length that was asked for
      have hmapped : (Memory.zero.storeWord 0 len).word 0 = len := Memory.word_storeWord _ _ _
      refine ⟨?_, .mapped ⟨mapping, _, _⟩ (Address.dvd_of_offsetIn_huge haligned) rfl hmapped
        (Region.pageCount_eq (by rw [Region.mappedLen, hmapped, hlen]))⟩
      rw [callsOf_append, hcalls]
      rfl
    · rw [if_neg haligned, List.append_nil]
      exact ⟨hcalls, .misaligned _ fun hdvd => haligned (Address.offsetIn_huge_of_dvd hdvd)⟩

theorem Region.Ends.settled {answer : Except PagesError VirtAddr}
    {outcome : Outcome PagesError Region} (h : Region.Ends g len answer outcome)
    (haligned : ∀ mapping, answer = .ok mapping → hugePageSize.toNat ∣ mapping.toNat) :
    outcome.Settled := by
  cases h with
  | refused cause => trivial
  | mapped region => trivial
  | misaligned mapping hmapping => exact (hmapping (haligned mapping rfl)).elim

namespace Pool

theorem resolveBase_breaks (p : Platform σ) (name : String) (start : VirtAddr) (s : σ) :
    ((resolveBase p name start).run s).Breaks False False := by
  apply Trace.breaks_of_settled
  show (resolveBase p name start s).outcome.Settled
  rw [resolveBase, p.run_resolve]
  cases (p.translate start s).1 <;> trivial

/-- Where the geometry has its place, nothing breaks off making a pool of a region and its table. -/
theorem assemble_breaks (p : Platform σ) (config : Config) (hg : g.Sound)
    (hpayload : payload.toNat = g.bufferSize.toNat * g.bufferCount.toNat) {region : Region}
    (hheader : region.headerOffset = g.headerOffset)
    (hfit : region.mapping.toNat + g.hugePages.toNat * hugePageSize.toNat < UInt64.size)
    (table : PageTable) (s : σ) :
    ((assemble p config g payload region table).run s).Breaks False False := by
  obtain ⟨start, slots, _, hstart, -, hslots, hbuffers⟩ :=
    parts_of_sound (ε := CreateError) hg hpayload hfit
  rw [assemble, Region.start, hheader, hstart, Action.ofOutcome_ok_bind]
  refine (resolveBase_breaks p config.name start s).bind fun phys _ => ?_
  refine (p.requestMemory_breaks _ _ _).bind fun _ _ => ?_
  rw [hslots, Action.ofOutcome_ok_bind, hbuffers]
  exact Trace.breaks_of_ok rfl

variable {mapper : Option MapperId} {config : Config}

/-- A region breaks off where a page of it cannot be mapped, and perhaps one before that page cannot
be unmapped again. -/
theorem furnish_breaks (p : Platform σ) (hg : g.Sound)
    (hpayload : payload.toNat = g.bufferSize.toNat * g.bufferCount.toNat) {region : Region}
    (hheader : region.headerOffset = g.headerOffset) (hcount : region.pageCount = g.hugePages)
    (hfit : region.mapping.toNat + g.hugePages.toNat * hugePageSize.toNat < UInt64.size) (s : σ) :
    ((furnish p mapper config g payload region).run s).Breaks True True := by
  have hbuild : ((PageTable.build p mapper config.device region.mapping region.pageCount).run
      s).Breaks True True := by
    rw [hcount]
    refine ((p.requestMemory_breaks _ _ s).imp False.elim False.elim).bind fun _ _ => ?_
    refine PageTable.extend_breaks p g.hugePages.toNat ⟨[], mapper, config.device⟩ ?_ _
    rw [List.length_nil, Nat.zero_add]
    exact hfit
  refine hbuild.bind fun table _ => ?_
  have hassemble := (assemble_breaks p config hg hpayload hheader hfit table
      ((PageTable.build p mapper config.device region.mapping region.pageCount).run s).state
    ).onFailure (table.release_breaks p) False.elim
  exact hassemble.imp False.elim fun _ => trivial

/-- **Creation**: making a pool breaks off because of its mapper only, if huge pages that are handed
out start at a multiple of their size and end at an address. -/
theorem create_breaks (p : Platform σ) (mapper : Option MapperId) (config : Config) (s : σ)
    (hpages : ∀ (g : Geometry) (len : UInt64) (mapping : VirtAddr), config.geometry = .ok g →
      (g.mappedLen : Outcome CreateError UInt64) = .ok len →
      (p.mapPages len s).1.answer = .ok mapping →
      hugePageSize.toNat ∣ mapping.toNat ∧ mapping.toNat + len.toNat < UInt64.size) :
    ((create p mapper config).run s).Breaks True True := by
  have hsettled := config.geometry_settled
  rw [create]
  cases hgeometry : config.geometry with
  | error cause => exact Trace.breaks_of_error rfl
  | panic cause =>
    rw [hgeometry] at hsettled
    exact hsettled.elim
  | abort =>
    rw [hgeometry] at hsettled
    exact hsettled.elim
  | ok g =>
    have hg : g.Sound := (Geometry.compute_eq_ok (Config.compute_of_geometry hgeometry)).2.2.2
    obtain ⟨payload, hpayload, hpayload_nat⟩ := hg.payloadLen_eq_ok (ε := CreateError)
    obtain ⟨len, hlen, hlen_nat⟩ := hg.mappedLen_eq_ok (ε := CreateError)
    have hmapping := hpages g len
    obtain ⟨-, hends⟩ := Region.run_allocate_of_sound p hg hpayload_nat hlen_nat s
    rw [Action.ofOutcome_ok_bind, hpayload, Action.ofOutcome_ok_bind]
    have hallocate : (((Region.allocate p payload g.headerOffset).mapError
        CreateError.hugePages).run s).Breaks True True := by
      apply Trace.breaks_of_settled
      have hregion := hends.settled fun mapping h => (hmapping mapping hgeometry hlen h).1
      show (((Region.allocate p payload g.headerOffset).run s).outcome.mapError _).Settled
      revert hregion
      cases ((Region.allocate p payload g.headerOffset).run s).outcome <;> exact id
    refine hallocate.bind fun region hregion => ?_
    rw [Action.run_mapError_eq_ok_iff.mp hregion] at hends
    generalize hanswer : (p.mapPages len s).1.answer = answer at hends
    cases hends with
    | mapped _ haligned hheader hmapped hcount =>
      have hfit := (hmapping region.mapping hgeometry hlen hanswer).2
      rw [hlen_nat] at hfit
      refine ((furnish_breaks p hg hpayload_nat hheader hcount hfit _).onFailure
        (region.release_breaks p) fun _ => id).imp id fun _ => trivial

/-- Destroying a pool breaks off at a page that cannot be unmapped. -/
theorem release_breaks (p : Platform σ) (pool : Pool) (s : σ) :
    ((pool.release p).run s).Breaks False True := by
  have hparts : ∀ s, (((pool.table.release p).andThen (pool.region.release p)).run s).Breaks False
      True := fun s =>
    ((pool.table.release_breaks p s).cleanUp (pool.region.release_breaks p) fun _ => id).imp id
      fun _ => trivial
  have hnote : Trace.Breaks ⟨[.log (Notice.destroying pool.name pool.available
      pool.geometry.bufferCount pool.region.mappedLen)], s, (.ok () : Outcome Empty Unit)⟩
      False False := Trace.breaks_of_ok rfl
  exact (hnote.cleanUp hparts False.elim).imp id fun _ => trivial

theorem giveBackSingle_breaks (p : Platform σ) (pool : Pool) (buffer : Buffer) (s : σ) :
    ((pool.giveBackSingle p buffer).run s).Breaks False True := by
  obtain ⟨free, answer, hrun⟩ := pool.run_giveBack_frame buffer.virt
  have hreturn : Trace.Breaks (⟨((giveBack buffer.virt).run pool).events, s,
      ((giveBack buffer.virt).run pool).outcome⟩ : Trace σ StackError Unit) False False := by
    rw [hrun]
    apply Trace.breaks_of_settled
    cases answer <;> trivial
  exact (hreturn.cleanUp (release_breaks p _) False.elim).imp id fun _ => trivial

end Pool

end

end HugePool
