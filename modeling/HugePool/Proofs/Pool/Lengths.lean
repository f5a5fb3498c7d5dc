import HugePool.Proofs.Pool.Accounts
import HugePool.Proofs.Pool.Lifo
import HugePool.Proofs.Pool.Refusals

/-!
# The length of a pool's huge pages

The length of the huge pages is computed three times: with the geometry, again when a region is
asked for, and when the region is given back, then from the word that its header has recorded.

* `Region.run_allocate_of_sound`, in the module on refusals: the second computation rounds the same
  sum up as the first one, so that it does not fail and has the same result.
* `Pool.furnish_quiet`: making a pool of a region does not call the source of pages.
* `Pool.givenBack_create`, `Pool.givenBack_release`: hence an attempt that fails gives back what it
  was handed out, and destroying a pool gives back what its header has recorded.
* `Pool.InUse.same`: clients do not change what is recorded.  They write into buffers, and these lie
  behind the header.
* `Pool.lengths_agree`: the three lengths are one, and the pages of a pool fill it.
-/

namespace HugePool

variable {σ ε ε' α β κ : Type}

/-! ### What is given back -/

/-- The huge pages that an event gives back. -/
def Event.givenBack? : Event → Option Lease
  | .unmapPages start len => some ⟨start, len⟩
  | _ => none

/-- The huge pages that are given back, in order. -/
def givenBack (events : List Event) : List Lease := events.filterMap Event.givenBack?

theorem givenBack_append (first second : List Event) :
    givenBack (first ++ second) = givenBack first ++ givenBack second := List.filterMap_append

theorem givenBack_callsOf (events : List Event) : givenBack (callsOf events) = givenBack events :=
  filterMap_callsOf (fun _ => rfl) events

theorem givenBack_of_quiet {events : List Event} (h : Quiet events) : givenBack events = [] := by
  apply List.filterMap_eq_nil_iff.mpr
  intro e he
  have hquiet := h e he
  cases e with
  | unmapPages _ _ => exact hquiet.elim
  | _ => rfl

/-- Events that give pages back once do so with their start and length. -/
theorem Returns.givenBack {start : VirtAddr} {len : UInt64} {base : List Exposure}
    {events : List Event} (h : Returns start len base events) :
    givenBack events = [⟨start, len⟩] := by
  obtain ⟨undo, record, tail, rfl, hundo, htail⟩ := h
  have htail_quiet : Quiet tail := fun e he => (htail e he).2
  rw [givenBack_append, givenBack_of_quiet hundo.quiet]
  show [] ++ ⟨start, len⟩ :: HugePool.givenBack tail = _
  rw [givenBack_of_quiet htail_quiet]
  rfl

theorem Trace.Closes.givenBack {t : Trace σ ε α} {start : VirtAddr} {len : UInt64}
    {base : List Exposure} (h : t.Closes start len base) (halive : t.outcome ≠ .abort) :
    givenBack t.events = [⟨start, len⟩] := by
  rw [Trace.Closes] at h
  cases hout : t.outcome with
  | abort => exact (halive hout).elim
  | ok _ => rw [hout] at h; exact h.givenBack
  | error _ => rw [hout] at h; exact h.givenBack
  | panic _ => rw [hout] at h; exact h.givenBack

/-! ### Actions that do not call the source of pages -/

/-- The action neither asks for huge pages nor gives any back. -/
def Action.Quiet (a : Action σ ε α) : Prop := ∀ s, HugePool.Quiet (a.run s).events

namespace Action

theorem Plain.quiet {a : Action σ ε α} (h : a.Plain) : a.Quiet := fun s e he => (h s e he).2

theorem Quiet.bind {a : Action σ ε α} {next : α → Action σ ε β} (ha : a.Quiet)
    (hnext : ∀ value, (next value).Quiet) : (a >>= next).Quiet := by
  intro s
  rw [run_bind]
  cases (a.run s).outcome with
  | ok value => exact quiet_append.mpr ⟨ha s, hnext value _⟩
  | error cause => exact ha s
  | panic cause => exact ha s
  | abort => exact ha s

theorem Quiet.onFailure {a : Action σ ε α} {cleanup : Action σ Empty Unit} (ha : a.Quiet)
    (hcleanup : cleanup.Quiet) : (a.onFailure cleanup).Quiet := by
  intro s
  by_cases hok : ∃ value, (a.run s).outcome = .ok value
  · obtain ⟨value, hok⟩ := hok
    rw [run_onFailure_of_ok hok]
    exact ha s
  · rw [run_onFailure_of_ne_ok (not_exists.mp hok)]
    by_cases habort : (a.run s).outcome = .abort
    · rw [cleanUp, habort]
      exact ha s
    · rw [cleanUp_of_ne_abort cleanup habort]
      exact quiet_append.mpr ⟨ha s, hcleanup _⟩

end Action

namespace PageTable

theorem release_quiet (p : Platform σ) (t : PageTable) : (t.release p).Quiet :=
  fun s => (t.release_hides p s).quiet

theorem failMapping_quiet (phys : PhysAddr) (cause : BusError) :
    (failMapping phys cause : Action σ ε α).Quiet :=
  (Action.Plain.note _).quiet.bind fun _ => (Action.Plain.ofOutcome _).quiet

theorem busOf_quiet (p : Platform σ) (mapper : Option MapperId) (device : Device)
    (phys : PhysAddr) : (busOf p mapper device phys : Action σ ε BusAddr).Quiet := by
  unfold busOf
  cases mapper with
  | none => exact (Action.Plain.ofOutcome _).quiet
  | some mapper =>
    have hrequest : (p.requestBus mapper device phys hugePageSize : Action σ ε _).Quiet :=
      fun _ => List.forall_mem_singleton.mpr trivial
    refine hrequest.bind fun answer => ?_
    cases answer with
    | ok bus => exact (Action.Plain.ofOutcome _).quiet
    | error cause => exact failMapping_quiet phys cause

theorem recordPage_quiet (p : Platform σ) (mapper : Option MapperId) (device : Device)
    (start : VirtAddr) (page : Nat) : (recordPage p mapper device start page).Quiet := by
  refine (Action.Plain.ofOutcome _).quiet.bind fun virt => ?_
  have hresolve : ((p.resolve virt).mapError CreateError.translate).Quiet :=
    (Action.Plain.resolve p virt).quiet
  refine hresolve.bind fun phys => (busOf_quiet p mapper device phys).bind fun bus => ?_
  split
  · refine (Action.Plain.note _).quiet.bind fun _ => ?_
    split
    · exact (Action.Plain.ofOutcome _).quiet
    · exact (Action.Plain.ofOutcome _).quiet
  · exact failMapping_quiet phys _

theorem extend_quiet (p : Platform σ) (start : VirtAddr) (count : Nat) (t : PageTable) :
    (extend p start t count).Quiet := by
  -- on the number of pages that are left
  induction count generalizing t with
  | zero => exact (Action.Plain.ofOutcome _).quiet
  | succ count ih =>
    exact ((recordPage_quiet p _ _ _ _).onFailure (t.release_quiet p)).bind fun _ => ih _

end PageTable

namespace Pool

/-- The source of pages is not called while a pool is made of a region. -/
theorem furnish_quiet (p : Platform σ) (mapper : Option MapperId) (config : Config) (g : Geometry)
    (payload : UInt64) (region : Region) : (furnish p mapper config g payload region).Quiet := by
  have hbuild : (PageTable.build p mapper config.device region.mapping region.pageCount).Quiet :=
    (Action.Plain.requestMemory p _ _).quiet.bind fun _ => PageTable.extend_quiet p _ _ _
  exact hbuild.bind fun table =>
    (Action.Plain.assemble p config g payload region table).quiet.onFailure (table.release_quiet p)

end Pool

/-! ### Attempts and pools -/

theorem Region.givenBack_release (p : Platform σ) (r : Region) (s : σ) :
    givenBack ((r.release p).run s).events = [⟨r.mapping, r.mappedLen⟩] := by
  obtain ⟨s', record, tail, hrun, htail⟩ := r.run_release p s
  have htail_quiet : Quiet tail := fun e he => (htail e he).2
  rw [hrun]
  show ⟨r.mapping, r.mappedLen⟩ :: givenBack tail = _
  rw [givenBack_of_quiet htail_quiet]

namespace Pool

/-- A region that is not kept is given back, unless the process aborts. -/
theorem givenBack_furnish (p : Platform σ) (mapper : Option MapperId) (config : Config)
    (g : Geometry) (payload : UInt64) (region : Region) (s : σ) :
    let t := ((furnish p mapper config g payload region).onFailure (region.release p)).run s
    givenBack t.events = [] ∧ ((∃ pool, t.outcome = .ok pool) ∨ t.outcome = .abort) ∨
      givenBack t.events = [⟨region.mapping, region.mappedLen⟩] := by
  have hquiet := givenBack_of_quiet (furnish_quiet p mapper config g payload region s)
  generalize furnish p mapper config g payload region = a at hquiet ⊢
  by_cases hok : ∃ pool, (a.run s).outcome = .ok pool
  · obtain ⟨pool, hok⟩ := hok
    rw [Action.run_onFailure_of_ok hok]
    exact Or.inl ⟨hquiet, Or.inl ⟨pool, hok⟩⟩
  · rw [Action.run_onFailure_of_ne_ok (not_exists.mp hok)]
    by_cases habort : (a.run s).outcome = .abort
    · rw [Action.cleanUp, habort]
      exact Or.inl ⟨hquiet, Or.inr habort⟩
    · rw [Action.cleanUp_of_ne_abort _ habort]
      refine Or.inr ?_
      show givenBack ((a.run s).events ++ _) = _
      rw [givenBack_append, hquiet, region.givenBack_release]
      rfl

/-- An attempt to make a pool gives back nothing but what it was handed out.  It does so if it
fails, unless the process aborts. -/
theorem givenBack_create (p : Platform σ) (mapper : Option MapperId) {config : Config}
    {g : Geometry} (hgeometry : config.geometry = .ok g) {len : UInt64}
    (hlen : (g.mappedLen : Outcome CreateError UInt64) = .ok len) (s : σ) :
    let t := (create p mapper config).run s
    (∀ lease ∈ givenBack t.events,
      lease.len = len ∧ (p.mapPages len s).1.answer = .ok lease.start) ∧
    ∀ mapping, (p.mapPages len s).1.answer = .ok mapping → hugePageSize.toNat ∣ mapping.toNat →
      (∀ pool, t.outcome ≠ .ok pool) → t.outcome ≠ .abort →
      givenBack t.events = [⟨mapping, len⟩] := by
  have hg : g.Sound := (Geometry.compute_eq_ok (Config.compute_of_geometry hgeometry)).2.2.2
  obtain ⟨payload, hpayload, hpayload_nat⟩ := hg.payloadLen_eq_ok (ε := CreateError)
  obtain ⟨_, hlen', hlen_nat⟩ := hg.mappedLen_eq_ok (ε := CreateError)
  cases Outcome.ok.inj (hlen.symm.trans hlen')
  obtain ⟨hcalls, hends⟩ := Region.run_allocate_of_sound p hg hpayload_nat hlen_nat s
  have hnone : givenBack ((Region.allocate p payload g.headerOffset).run s).events = [] := by
    rw [← givenBack_callsOf, hcalls]
    rfl
  have hrun : ((Region.allocate p payload g.headerOffset).mapError CreateError.hugePages).run s =
    ⟨((Region.allocate p payload g.headerOffset).run s).events,
      ((Region.allocate p payload g.headerOffset).run s).state,
      ((Region.allocate p payload g.headerOffset).run s).outcome.mapError .hugePages⟩ := rfl
  rw [create, hgeometry, Action.ofOutcome_ok_bind, hpayload, Action.ofOutcome_ok_bind]
  generalize (p.mapPages len s).1.answer = answer at hends ⊢
  generalize ((Region.allocate p payload g.headerOffset).run s).outcome = outcome at hends hrun
  -- without a region there is nothing to give back
  have hempty : ∀ lease ∈ givenBack ((Region.allocate p payload g.headerOffset).run s).events,
      lease.len = len ∧ answer = .ok lease.start := by
    rw [hnone]
    exact List.forall_mem_nil _
  cases hends with
  | refused cause =>
    rw [Action.run_bind, hrun]
    exact ⟨hempty, fun _ h => by cases h⟩
  | misaligned mapping hmapping =>
    rw [Action.run_bind, hrun]
    refine ⟨hempty, fun _ h hdvd => ?_⟩
    cases h
    exact (hmapping hdvd).elim
  | mapped region haligned hheader hmapped hcount =>
    rw [Action.run_bind_of_ok hrun]
    have hrest := givenBack_furnish p mapper config g payload region
      ((Region.allocate p payload g.headerOffset).run s).state
    rw [hmapped] at hrest
    show (∀ lease ∈ givenBack (_ ++ _), _) ∧ ∀ _, _ → _ → _ → _ → givenBack (_ ++ _) = _
    rw [givenBack_append, hnone, List.nil_append]
    rcases hrest with ⟨hnothing, hended⟩ | hall
    · rw [hnothing]
      refine ⟨List.forall_mem_nil _, fun _ _ _ hnotok halive => ?_⟩
      rcases hended with ⟨pool, hok⟩ | habort
      · exact (hnotok pool hok).elim
      · exact (halive habort).elim
    · rw [hall]
      refine ⟨List.forall_mem_singleton.mpr ⟨rfl, rfl⟩, fun _ h _ _ _ => ?_⟩
      cases h
      rfl

theorem givenBack_release (p : Platform σ) {pool : Pool} (h : pool.Intact) (s : σ) :
    givenBack ((pool.release p).run s).events = [⟨pool.region.mapping, pool.region.mappedLen⟩] :=
  (release_closes p h s).givenBack fun habort => ((release_breaks p pool s).aborted habort).1.1

theorem givenBack_giveBackSingle (p : Platform σ) {pool : Pool} (h : pool.Intact) (buffer : Buffer)
    (s : σ) : givenBack ((pool.giveBackSingle p buffer).run s).events
      = [⟨pool.region.mapping, pool.region.mappedLen⟩] :=
  (giveBackSingle_closes p h buffer s).givenBack fun habort =>
    ((giveBackSingle_breaks p pool buffer s).aborted habort).1.1

/-! ### Pools in use -/

/-- What a pool may have become since it was made.  Its clients take buffers, give back whatever
they like, and write into the buffers that it was made with. -/
inductive InUse (κ : Type) (pool : Pool) : Pool → Prop where
  | new : InUse κ pool pool
  | served (c : Pool) (call : Call κ) (h : InUse κ pool c) : InUse κ pool (c.serve call).2
  | written (c : Pool) (i : Nat) (hi : i < pool.geometry.bufferCount.toNat) (va : VirtAddr)
      (len : Nat) (f : Nat → UInt8)
      (hstart : pool.geometry.bufferStart pool.region.mapping.toNat i ≤ va.toNat)
      (hend : va.toNat + len
        ≤ pool.geometry.bufferStart pool.region.mapping.toNat i + pool.geometry.bufferSize.toNat)
      (h : InUse κ pool c) : InUse κ pool (c.store va len f)

/-- Two pools are the same up to their free buffers and what is written in them. -/
structure Same (pool c : Pool) : Prop where
  geometry_eq : c.geometry = pool.geometry
  buffers_eq : c.buffers = pool.buffers
  table_eq : c.table = pool.table
  mapping_eq : c.region.mapping = pool.region.mapping
  mappedLen_eq : c.region.mappedLen = pool.region.mappedLen

theorem serve_frame (c : Pool) (call : Call κ) :
    ∃ free, (c.serve call).2 = { c with free := free } := by
  cases call with
  | allocate client =>
    obtain ⟨_, free, _, hrun, -⟩ := c.run_allocate_frame
    exact ⟨free, congrArg Trace.state hrun⟩
  | giveBack client va =>
    obtain ⟨free, _, hrun⟩ := c.run_giveBack_frame va
    exact ⟨free, congrArg Trace.state hrun⟩

/-- A write into a buffer does not reach the word that the header starts with. -/
theorem mappedLen_store_of_le {c : Pool} {va : VirtAddr} (len : Nat) (f : Nat → UInt8)
    (h : c.region.mapping.toNat + wordBytes.toNat ≤ va.toNat) :
    (c.store va len f).region.mappedLen = c.region.mappedLen := by
  have hle : c.region.mapping.word ≤ va.word := by
    rw [UInt64.le_iff_toNat_le]
    exact (Nat.le_add_right _ _).trans h
  have hplace : c.placeOf va = va.toNat - c.region.mapping.toNat := UInt64.toNat_sub_of_le _ _ hle
  exact c.mappedLen_store len f (by omega)

theorem InUse.same {pool c : Pool} (hg : pool.geometry.Sound) (h : pool.InUse κ c) :
    pool.Same c := by
  induction h with
  | new => exact ⟨rfl, rfl, rfl, rfl, rfl⟩
  | served c call _ ih =>
    obtain ⟨free, hframe⟩ := c.serve_frame call
    rw [hframe]
    exact ⟨ih.geometry_eq, ih.buffers_eq, ih.table_eq, ih.mapping_eq, ih.mappedLen_eq⟩
  | written c i hi va len f hstart hend _ ih =>
    -- the length stands in the header, and every buffer starts past it
    have hheader := hg.header_ge
    have hword : wordBytes.toNat = 8 := rfl
    have hpast : c.region.mapping.toNat + wordBytes.toNat ≤ va.toNat := by
      rw [Geometry.bufferStart] at hstart
      rw [ih.mapping_eq]
      omega
    exact ⟨ih.geometry_eq, ih.buffers_eq, ih.table_eq, ih.mapping_eq,
      (mappedLen_store_of_le len f hpast).trans ih.mappedLen_eq⟩

theorem Same.intact {pool c : Pool} (h : pool.Same c) (hintact : pool.Intact) : c.Intact := by
  constructor
  · rw [h.geometry_eq]
    exact hintact.sound
  · rw [h.mapping_eq]
    exact hintact.aligned
  · rw [h.mappedLen_eq, h.geometry_eq]
    exact hintact.recorded
  · rw [baseVirtual, h.buffers_eq, h.mapping_eq, h.geometry_eq]
    exact hintact.base
  · rw [hugePages, h.table_eq, h.geometry_eq, h.mapping_eq]
    exact hintact.pages

/-! ### The lengths agree -/

/-- The pages of a pool are those of a geometry.  They follow one another, and fill a length. -/
structure Fills (pool : Pool) (g : Geometry) (len : UInt64) : Prop where
  length_eq : pool.hugePages.length = g.hugePages.toNat
  starts : pool.hugePages.map (·.virt.toNat) =
    (List.range g.hugePages.toNat).map
      fun k => pool.region.mapping.toNat + k * hugePageSize.toNat
  disjoint : pool.hugePages.Pairwise fun r r' => Disjoint r.virtSpan r'.virtSpan
  covers : ∀ place, (∃ r ∈ pool.hugePages, place ∈ r.virtSpan) ↔
    place ∈ Set.Ico pool.region.mapping.toNat (pool.region.mapping.toNat + len.toNat)

theorem Intact.fills {pool : Pool} (h : pool.Intact) :
    pool.Fills pool.geometry pool.region.mappedLen where
  length_eq := h.length_hugePages
  starts := h.pages
  disjoint := h.virtSpan_disjoint
  covers place := by
    rw [h.recorded]
    exact h.exists_page_iff

/-- A pool holds the pages that the source answered with. -/
theorem mapping_of_create {p : Platform σ} {mapper : Option MapperId} {config : Config}
    {g : Geometry} (hgeometry : config.geometry = .ok g) {len : UInt64}
    (hlen : (g.mappedLen : Outcome CreateError UInt64) = .ok len) {s : σ} {pool : Pool}
    (h : ((create p mapper config).run s).outcome = .ok pool) :
    (p.mapPages len s).1.answer = .ok pool.region.mapping ∧ pool.region.mappedLen = len := by
  obtain ⟨g', hgeometry', h⟩ := Action.run_bind_eq_ok_iff.mp h
  cases Outcome.ok.inj (hgeometry.symm.trans hgeometry')
  obtain ⟨payload, hpayload, h⟩ := Action.run_bind_eq_ok_iff.mp h
  obtain ⟨region, hregion, h⟩ := Action.run_bind_eq_ok_iff.mp h
  cases region_of_furnish (Action.run_onFailure_eq_ok_iff.mp h)
  have hg : g.Sound := (Geometry.compute_eq_ok (Config.compute_of_geometry hgeometry)).2.2.2
  have hpayload_nat : payload.toNat = g.bufferSize.toNat * g.bufferCount.toNat :=
    Word.mul?_eq_some_iff.mp (Outcome.orPanic_eq_ok_iff.mp hpayload)
  have hlen_nat : len.toNat = g.hugePages.toNat * hugePageSize.toNat :=
    Word.mul?_eq_some_iff.mp (Outcome.orPanic_eq_ok_iff.mp hlen)
  have hallocate : ((Region.allocate p payload g.headerOffset).run s).outcome = .ok pool.region :=
    Action.run_mapError_eq_ok_iff.mp hregion
  obtain ⟨-, hends⟩ := Region.run_allocate_of_sound p hg hpayload_nat hlen_nat s
  rw [hallocate] at hends
  generalize (p.mapPages len s).1.answer = answer at hends ⊢
  cases hends with
  | mapped _ haligned hheader hmapped hcount => exact ⟨rfl, hmapped⟩

/-- **Lengths**: whenever a geometry is computed, a region of it is asked for with exactly the
length of its huge pages, and this neither overflows nor finds the header too short.  The pages of a
pool that is made of it are as many, and fill this length.  Pages are given back with this length
only: when the pool is not made, and when it is destroyed, whatever its clients have done by
then. -/
theorem lengths_agree {size count alignment : UInt64} {g : Geometry}
    (h : Geometry.compute size count alignment = .ok g) :
    ∃ payload len : UInt64, (g.payloadLen : Outcome CreateError UInt64) = .ok payload ∧
      (g.mappedLen : Outcome CreateError UInt64) = .ok len ∧ len ≠ 0 ∧
      hugePageSize.toNat ∣ len.toNat ∧
      (∀ (p : Platform σ) (s : σ),
        callsOf ((Region.allocate p payload g.headerOffset).run s).events
          = [.mapPages len (p.mapPages len s).1.answer] ∧
        Region.Ends g len (p.mapPages len s).1.answer
          ((Region.allocate p payload g.headerOffset).run s).outcome) ∧
      -- making a pool, and destroying it
      ∀ (context : Context σ) (config : Config) (s : σ), config.geometry = .ok g →
        let p := context.platform
        let t := (context.createPool config).run s
        (∀ lease ∈ givenBack t.events,
          lease.len = len ∧ (p.mapPages len s).1.answer = .ok lease.start) ∧
        (∀ mapping, (p.mapPages len s).1.answer = .ok mapping →
          hugePageSize.toNat ∣ mapping.toNat → (∀ pool, t.outcome ≠ .ok pool) →
          t.outcome ≠ .abort → givenBack t.events = [⟨mapping, len⟩]) ∧
        ∀ pool, t.outcome = .ok pool →
          (p.mapPages len s).1.answer = .ok pool.region.mapping ∧ pool.Fills g len ∧
          ∀ c, pool.InUse κ c → ∀ s',
            givenBack ((c.release p).run s').events = [⟨pool.region.mapping, len⟩] ∧
            ∀ buffer, givenBack ((c.giveBackSingle p buffer).run s').events
              = [⟨pool.region.mapping, len⟩] := by
  have hg : g.Sound := (Geometry.compute_eq_ok h).2.2.2
  obtain ⟨payload, hpayload, hpayload_nat⟩ := hg.payloadLen_eq_ok (ε := CreateError)
  obtain ⟨len, hlen, hlen_nat⟩ := hg.mappedLen_eq_ok (ε := CreateError)
  have hdvd : hugePageSize.toNat ∣ len.toNat :=
    ⟨g.hugePages.toNat, hlen_nat.trans (Nat.mul_comm _ _)⟩
  have hne : len ≠ 0 := by
    rintro rfl
    have hwhole := hg.whole
    have hheader := hg.header_ge
    rw [toNat_hugePageSize] at hlen_nat
    have hzero : (0 : UInt64).toNat = 0 := rfl
    omega
  refine ⟨payload, len, hpayload, hlen, hne, hdvd,
    fun p s => Region.run_allocate_of_sound p hg hpayload_nat hlen_nat s, ?_⟩
  intro context config s hgeometry p t
  obtain ⟨hlengths, hfailed⟩ := givenBack_create p context.mapper hgeometry hlen s
  refine ⟨hlengths, hfailed, fun pool hpool => ?_⟩
  obtain ⟨hintact, hgeometry', -⟩ := create_eq_ok hpool
  obtain ⟨hmapping, hmapped⟩ := mapping_of_create hgeometry hlen hpool
  have hsame_geometry : pool.geometry = g := Outcome.ok.inj (hgeometry'.symm.trans hgeometry)
  have hfills := hintact.fills
  rw [hsame_geometry, hmapped] at hfills
  refine ⟨hmapping, hfills, fun c hc s' => ?_⟩
  have hsame := hc.same hintact.sound
  have hc_intact := hsame.intact hintact
  have hlease : (⟨c.region.mapping, c.region.mappedLen⟩ : Lease) = ⟨pool.region.mapping, len⟩ := by
    rw [hsame.mapping_eq, hsame.mappedLen_eq, hmapped]
  rw [← hlease]
  exact ⟨givenBack_release p hc_intact s',
    fun buffer => givenBack_giveBackSingle p hc_intact buffer s'⟩

/-- Two huge pages, of which the mapper refuses the second one, are given back as they were handed
out.  So are those of a pool with a byte written into its first buffer. -/
theorem lengths_agree_refused :
    let refusing : Script := { mappers := [{ distance := 4096, refusedMaps := [2] }] }
    givenBack ((Context.createPool ⟨refusing.platform, some 0⟩ ⟨"rx", {}, 1048576, 3, 64⟩).run
        refusing.start).events = [⟨⟨4294967296⟩, 4194304⟩] ∧
      ∃ pool, ((Context.createPool ⟨Script.platform {}, none⟩ ⟨"rx", {}, 1048576, 3, 64⟩).run
          (Script.start {})).outcome = .ok pool ∧
        pool.Fills ⟨1048576, 3, 64, 1048576, 2⟩ 4194304 ∧
        givenBack (((pool.store ⟨4296015872⟩ 1 fun _ => 255).release (Script.platform {})).run
          (Script.start {})).events = [⟨⟨4294967296⟩, 4194304⟩] := by
  intro refusing
  have h : Geometry.compute 1048576 3 64 = .ok ⟨1048576, 3, 64, 1048576, 2⟩ := by decide
  have hrequest : Config.geometry ⟨"rx", {}, 1048576, 3, 64⟩
    = .ok ⟨1048576, 3, 64, 1048576, 2⟩ := by decide
  obtain ⟨_, len, -, hlen, -, -, -, hpools⟩ := lengths_agree (σ := ScriptState) (κ := Nat) h
  have hlen' : len = 4194304 := Outcome.ok.inj (hlen.symm.trans (by decide))
  subst hlen'
  obtain ⟨-, hfailed, -⟩ := hpools ⟨refusing.platform, some 0⟩ _ refusing.start hrequest
  have hpanic : ((Context.createPool ⟨refusing.platform, some 0⟩ ⟨"rx", {}, 1048576, 3, 64⟩).run
      refusing.start).outcome.ignore
        = .panic (.busMappingFailed (.mapRefused {} ⟨4297064448⟩ (-12))) := by decide +kernel
  obtain ⟨pool, hcreate⟩ : ∃ pool, ((Context.createPool ⟨Script.platform {}, none⟩
      ⟨"rx", {}, 1048576, 3, 64⟩).run (Script.start {})).outcome = .ok pool := ⟨_, rfl⟩
  obtain ⟨-, -, hmade⟩ := hpools ⟨Script.platform {}, none⟩ _ (Script.start {}) hrequest
  obtain ⟨hanswer, hfills, huse⟩ := hmade pool hcreate
  have hgeometry : pool.geometry = ⟨1048576, 3, 64, 1048576, 2⟩ :=
    Outcome.ok.inj ((create_eq_ok hcreate).2.1.symm.trans hrequest)
  have hmapping : pool.region.mapping = ⟨4294967296⟩ := (Except.ok.inj hanswer).symm
  refine ⟨hfailed ⟨4294967296⟩ rfl (by decide) (fun _ hok => ?_) (fun habort => ?_), pool, hcreate,
    hfills, ?_⟩
  · rw [hok] at hpanic
    cases hpanic
  · rw [habort] at hpanic
    cases hpanic
  have hwritten : pool.InUse Nat (pool.store ⟨4296015872⟩ 1 fun _ => 255) := by
    refine .written pool 0 ?_ _ _ _ ?_ ?_ .new
    · rw [hgeometry]
      decide
    · rw [hgeometry, hmapping]
      decide
    · rw [hgeometry, hmapping]
      decide
  have hback := (huse _ hwritten (Script.start {})).1
  rw [hmapping] at hback
  exact hback

end Pool

end HugePool
