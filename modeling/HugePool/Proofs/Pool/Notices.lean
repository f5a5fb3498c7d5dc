import HugePool.Platform.Scripted
import HugePool.Proofs.Journal.Records
import HugePool.Session.Basic

/-!
# What pools log

Making a pool informs when the pool is there, and only then; destroying one informs first.  Whatever
goes wrong at a mapper is told with an error record before the panic that it causes.  A translation
that fails is worth a warning if it is that of the first buffer; one that is about a page is not
warned of.

* `PageTable.Tried` and `Pool.Assembly` list the ways in which a page is entered and a pool is put
  together, with all that is logged on the way.
* `Pool.create_candid` and `Pool.create_warns` follow them through the whole of making a pool.
* `Context.notices_exact`: the records of pools.
-/

namespace HugePool

variable {σ ε α β : Type}

/-! ### Pages -/

/-- Asking for memory leaves no trace in a journal. -/
theorem Platform.run_requestMemory (p : Platform σ) (count size : Nat) (s : σ) :
    (p.requestMemory count size).run s =
      ⟨[], (p.reserve (count * size) s).2,
        if (p.reserve (count * size) s).1 then .ok () else .error .outOfMemory⟩ := by
  rw [Platform.requestMemory, Action.run_bind_of_ok (Action.run_ask _ _)]
  cases (p.reserve (count * size) s).1 <;> rfl

theorem Platform.requestMemory_candid (p : Platform σ) (count size : Nat) (s : σ) :
    ((p.requestMemory count size).run s).Candid p 0 := by
  rw [p.run_requestMemory]
  cases (p.reserve (count * size) s).1 with
  | true => exact Trace.candid_of_uninformed trivial trivial rfl
  | false => exact Trace.candid_of_uninformed trivial trivial rfl

theorem Platform.requestMemory_looks (p : Platform σ) (count size : Nat) (s : σ) :
    ((p.requestMemory count size).run s).Looks 0 := by
  rw [p.run_requestMemory]
  cases (p.reserve (count * size) s).1 with
  | true => exact translated_of_aside (List.forall_mem_nil _)
  | false => trivial

namespace PageTable

/-- The call by which a page is made visible to the device, if there is a mapper for it. -/
def busCalls (mapper : Option MapperId) (device : Device) (phys : PhysAddr) (bus : BusAddr) :
    List Event :=
  match mapper with
  | some mapper => [.mapBus mapper device phys hugePageSize (.ok bus)]
  | none => []

/-- What is seen of entering a page, and how it ends. -/
inductive Tried (mapper : Option MapperId) (device : Device) (page : Nat) :
    List Event → Outcome CreateError PageRecord → Prop where
  | nowhere (cause : Panic) (hcause : ¬ cause.OfMapper) : Tried mapper device page [] (.panic cause)
  | untranslated (virt : VirtAddr) (cause : TranslateError) :
    Tried mapper device page [.translate virt (.error cause)] (.error (.translate cause))
  | refused (virt : VirtAddr) (phys : PhysAddr) (id : MapperId) (cause : BusError) :
    Tried mapper device page [.translate virt (.ok phys),
      .mapBus id device phys hugePageSize (.error cause), .log (Notice.mappingFailed phys cause)]
      (.panic (.busMappingFailed cause))
  | overflowing (virt : VirtAddr) (phys : PhysAddr) (bus : BusAddr) (cause : BusError) :
    Tried mapper device page (.translate virt (.ok phys) :: (busCalls mapper device phys bus
      ++ [.log (Notice.mappingFailed phys cause)])) (.panic (.busMappingFailed cause))
  | unplaced (virt : VirtAddr) (phys : PhysAddr) (bus : BusAddr) (start : String) (len : UInt64)
    (hroom : bus.toNat + hugePageSize.toNat < UInt64.size) :
    Tried mapper device page (.translate virt (.ok phys) :: (busCalls mapper device phys bus
      ++ [.log (Notice.recorded page virt phys bus)])) (.panic (.rangeOverflow start len))
  | entered (record : PageRecord) (phys : PhysAddr) :
    Tried mapper device page (.translate record.virt (.ok phys)
      :: (busCalls mapper device phys record.bus
        ++ [.log (Notice.recorded page record.virt phys record.bus)])) (.ok record)

/-- What is done with a page that the device sees: it is recorded, or there is no room for it. -/
theorem record_tried (mapper : Option MapperId) (device : Device) (page : Nat) (virt : VirtAddr)
    (phys : PhysAddr) (bus : BusAddr) (s : σ) :
    ∃ more outcome,
      (if hb : bus.toNat + hugePageSize.toNat < UInt64.size then (do
        Action.note (Notice.recorded page virt phys bus)
        if hv : virt.toNat + hugePageSize.toNat < UInt64.size then
          return ⟨virt, bus, hv, hb⟩
        else
          Action.panic (.rangeOverflow virt.tagged hugePageSize))
      else failMapping phys (.overflow device phys bus) : Action σ CreateError PageRecord).run s =
        ⟨more, s, outcome⟩ ∧
      Tried mapper device page (.translate virt (.ok phys) :: (busCalls mapper device phys bus
        ++ more)) outcome := by
  by_cases hb : bus.toNat + hugePageSize.toNat < UInt64.size
  · rw [dif_pos hb]
    by_cases hv : virt.toNat + hugePageSize.toNat < UInt64.size
    · rw [dif_pos hv]
      exact ⟨_, _, rfl, .entered ⟨virt, bus, hv, hb⟩ phys⟩
    · rw [dif_neg hv]
      exact ⟨_, _, rfl, .unplaced virt phys bus _ _ hb⟩
  · rw [dif_neg hb]
    exact ⟨_, _, rfl, .overflowing virt phys bus _⟩

theorem recordPage_tried (p : Platform σ) (mapper : Option MapperId) (device : Device)
    (start : VirtAddr) (page : Nat) (s : σ) :
    Tried mapper device page ((recordPage p mapper device start page).run s).events
      ((recordPage p mapper device start page).run s).outcome := by
  unfold recordPage Word.mul
  cases Word.mul? (UInt64.ofNat page) hugePageSize with
  | none => exact .nowhere .mulOverflow id
  | some distance =>
    show Tried mapper device page
      (Action.run (Action.ofOutcome (start.add distance) >>= _) s).events
      (Action.run (Action.ofOutcome (start.add distance) >>= _) s).outcome
    unfold Address.add
    cases start.add? distance with
    | none => exact .nowhere .addOverflow id
    | some virt =>
      rw [Outcome.orPanic_some, Action.ofOutcome_ok_bind]
      have hresolve : ((p.resolve virt).mapError CreateError.translate).run s =
        ⟨[.translate virt (p.translate virt s).1], (p.translate virt s).2,
          (Outcome.ofExcept (p.translate virt s).1).mapError .translate⟩ := rfl
      cases hphys : (p.translate virt s).1 with
      | error cause =>
        rw [hphys] at hresolve
        rw [Action.run_bind, hresolve]
        exact .untranslated virt cause
      | ok phys =>
        rw [hphys] at hresolve
        rw [Action.run_bind_of_ok hresolve]
        cases mapper with
        | none =>
          have hbus : (busOf p none device phys : Action σ CreateError _).run (p.translate virt s).2
            = ⟨[], (p.translate virt s).2, .ok phys.toBus⟩ := rfl
          obtain ⟨more, outcome, hrecord, htried⟩ :=
            record_tried none device page virt phys phys.toBus (p.translate virt s).2
          rw [Action.run_bind_of_ok hbus, hrecord]
          exact htried
        | some id =>
          have hbus := run_busOf (ε := CreateError) p id device phys (p.translate virt s).2
          cases hanswer : (p.mapBus id device phys hugePageSize (p.translate virt s).2).1 with
          | error cause =>
            rw [hanswer] at hbus
            rw [Action.run_bind, hbus]
            exact .refused virt phys id cause
          | ok bus =>
            rw [hanswer] at hbus
            obtain ⟨more, outcome, hrecord, htried⟩ :=
              record_tried (some id) device page virt phys bus
                (p.mapBus id device phys hugePageSize (p.translate virt s).2).2
            rw [Action.run_bind_of_ok hbus, hrecord]
            exact htried

section

variable {mapper : Option MapperId} {device : Device} {page : Nat} {events : List Event}
  {outcome : Outcome CreateError PageRecord}

theorem busCalls_aside (mapper : Option MapperId) (device : Device) (phys : PhysAddr)
    (bus : BusAddr) : ∀ e ∈ busCalls mapper device phys bus, e.Aside := by
  cases mapper with
  | none => exact List.forall_mem_nil _
  | some _ => exact List.forall_mem_singleton.mpr trivial

/-- A page that is made visible where it has room is no trouble. -/
theorem busCalls_calm (mapper : Option MapperId) (device : Device) (phys : PhysAddr)
    {bus : BusAddr} (hroom : bus.toNat + hugePageSize.toNat < UInt64.size) :
    ∀ e ∈ busCalls mapper device phys bus, ¬ e.Troubled := by
  cases mapper with
  | none => exact List.forall_mem_nil _
  | some _ => exact List.forall_mem_singleton.mpr (Nat.not_le.mpr hroom)

theorem Tried.flagged (h : Tried mapper device page events outcome) : Flagged events := by
  cases h with
  | nowhere => trivial
  | untranslated => exact ⟨False.elim, trivial⟩
  | refused => exact ⟨False.elim, fun _ => ⟨_, rfl, rfl⟩, False.elim, trivial⟩
  | overflowing virt phys bus cause =>
    refine ⟨False.elim, ?_⟩
    cases mapper with
    | none => exact ⟨False.elim, trivial⟩
    | some _ => exact ⟨fun _ => ⟨_, rfl, rfl⟩, False.elim, trivial⟩
  | unplaced virt phys bus start len hroom =>
    refine ⟨False.elim, (flagged_of_forall (busCalls_calm mapper device phys hroom)).append ?_⟩
    exact ⟨False.elim, trivial⟩
  | entered record phys =>
    have hcalm := flagged_of_forall (busCalls_calm mapper device phys record.bus_fits)
    refine ⟨False.elim, hcalm.append ?_⟩
    exact ⟨False.elim, trivial⟩

/-- Entering a page informs of nothing. -/
theorem Tried.uninformed (h : Tried mapper device page events outcome) :
    recordCount .info events = 0 := by
  have hcalls := fun phys bus => recordCount_of_aside (busCalls_aside mapper device phys bus)
  cases h with
  | nowhere => rfl
  | untranslated => rfl
  | refused => rfl
  | overflowing virt phys bus cause =>
    show recordCount .info ([_] ++ (_ ++ _)) = 0
    rw [recordCount_append, recordCount_append, hcalls]
    rfl
  | unplaced virt phys bus start len hroom =>
    show recordCount .info ([_] ++ (_ ++ _)) = 0
    rw [recordCount_append, recordCount_append, hcalls]
    rfl
  | entered record phys =>
    show recordCount .info ([_] ++ (_ ++ _)) = 0
    rw [recordCount_append, recordCount_append, hcalls]
    rfl

/-- A mapper makes entering a page panic right after an error record, and nothing aborts it. -/
theorem Tried.announced {t : Trace σ CreateError PageRecord}
    (h : Tried mapper device page t.events t.outcome) (p : Platform σ) : t.Announced p := by
  obtain ⟨events, s, outcome⟩ := t
  cases h with
  | nowhere cause hcause => exact fun hmapper => (hcause hmapper).elim
  | untranslated => trivial
  | refused virt phys id cause =>
    exact fun _ => .started [_, _] (Notice.mappingFailed phys cause) s rfl
  | overflowing virt phys bus cause =>
    exact fun _ => .started (_ :: busCalls mapper device phys bus) (Notice.mappingFailed phys cause)
      s rfl
  | unplaced => exact False.elim
  | entered => trivial

theorem Tried.looks {t : Trace σ CreateError PageRecord}
    (h : Tried mapper device page t.events t.outcome) : t.Looks 1 := by
  obtain ⟨events, s, outcome⟩ := t
  cases h with
  | nowhere => trivial
  | untranslated virt cause =>
    exact ⟨0, [], ⟨[], virt, rfl, [], rfl, rfl⟩, List.forall_mem_nil _, Nat.one_pos⟩
  | refused => trivial
  | overflowing => trivial
  | unplaced => trivial
  | entered record phys =>
    refine ⟨[phys], ?_, rfl⟩
    show answersOf ([_] ++ (_ ++ _)) = _
    rw [answersOf_append, answersOf_append,
      answersOf_of_aside (busCalls_aside mapper device phys record.bus)]
    rfl

theorem recordPage_candid (p : Platform σ) (mapper : Option MapperId) (device : Device)
    (start : VirtAddr) (page : Nat) (s : σ) :
    ((recordPage p mapper device start page).run s).Candid p 0 :=
  have htried := recordPage_tried p mapper device start page s
  Trace.candid_of_uninformed htried.flagged (htried.announced p) htried.uninformed

theorem recordPage_looks (p : Platform σ) (mapper : Option MapperId) (device : Device)
    (start : VirtAddr) (page : Nat) (s : σ) :
    ((recordPage p mapper device start page).run s).Looks 1 :=
  (recordPage_tried p mapper device start page s).looks

/-- The pages that are entered next are told of as each of them is. -/
theorem extend_candid (p : Platform σ) (start : VirtAddr) (count : Nat) (t : PageTable) (s : σ) :
    ((extend p start t count).run s).Candid p 0 := by
  -- on the number of pages that are left, for the table that the pages before have left
  induction count generalizing t s with
  | zero => exact Trace.candid_of_uninformed trivial trivial rfl
  | succ count ih =>
    have hpage := recordPage_candid p t.mapper t.device start t.records.length s
    exact (hpage.onFailure (.table t)).bind fun _ _ => ih _ _

theorem extend_looks (p : Platform σ) (start : VirtAddr) (count : Nat) (t : PageTable) (s : σ) :
    ((extend p start t count).run s).Looks count := by
  induction count generalizing t s with
  | zero => exact translated_of_aside (List.forall_mem_nil _)
  | succ count ih =>
    have hpage := recordPage_looks p t.mapper t.device start t.records.length s
    rw [extend, Nat.add_comm]
    exact (hpage.onFailure (.table t)).bind fun _ _ => ih _ _

end

theorem build_candid (p : Platform σ) (mapper : Option MapperId) (device : Device)
    (start : VirtAddr) (pages : UInt64) (s : σ) :
    ((build p mapper device start pages).run s).Candid p 0 :=
  (p.requestMemory_candid _ _ s).bind fun _ _ => extend_candid p start pages.toNat _ _

theorem build_looks (p : Platform σ) (mapper : Option MapperId) (device : Device)
    (start : VirtAddr) (pages : UInt64) (s : σ) :
    ((build p mapper device start pages).run s).Looks pages.toNat := by
  have hmemory := p.requestMemory_looks pages.toNat PageRecord.bytes s
  rw [← Nat.zero_add pages.toNat]
  exact hmemory.bind fun _ _ => extend_looks p start pages.toNat _ _

end PageTable

/-! ### Regions -/

section

variable {g : Geometry} {payload : UInt64}

/-- Mapping a region calls nobody but the source of huge pages, and warns of nothing else. -/
theorem Region.allocate_aside (p : Platform σ) (hg : g.Sound)
    (hpayload : payload.toNat = g.bufferSize.toNat * g.bufferCount.toNat) (s : σ) :
    ∀ e ∈ ((Region.allocate p payload g.headerOffset).run s).events, e.Aside ∧ ¬ e.Troubled := by
  obtain ⟨len, -, hlen⟩ := hg.mappedLen_eq_ok (ε := CreateError)
  rw [Region.allocate, Outcome.require_pos hg.wordBytes_le, Action.ofOutcome_ok_bind,
    Region.lengthFor_of_sound hg hpayload hlen, Action.ofOutcome_ok_bind]
  obtain ⟨before, hrun, hlogs⟩ := p.run_requestPages len s
  have hbefore : ∀ e ∈ before, e.Aside ∧ ¬ e.Troubled := by
    intro e he
    obtain ⟨cause, rfl⟩ := hlogs e he
    exact ⟨Event.aside_of_pages rfl rfl, id⟩
  generalize (p.mapPages len s).1.answer = answer at hrun
  have hcall : ∀ e ∈ before ++ [.mapPages len answer], e.Aside ∧ ¬ e.Troubled :=
    List.forall_mem_append.mpr ⟨hbefore, List.forall_mem_singleton.mpr ⟨trivial, id⟩⟩
  cases answer with
  | error cause =>
    rw [Action.run_bind, hrun]
    exact hcall
  | ok mapping =>
    rw [Action.run_bind_of_ok hrun, Region.run_enter]
    refine List.forall_mem_append.mpr ⟨hcall, ?_⟩
    split
    · exact List.forall_mem_singleton.mpr ⟨Event.aside_of_debug rfl, id⟩
    · exact List.forall_mem_nil _

theorem Region.allocate_candid (p : Platform σ) (hg : g.Sound)
    (hpayload : payload.toNat = g.bufferSize.toNat * g.bufferCount.toNat) (s : σ) :
    ((Region.allocate p payload g.headerOffset).run s).Candid p 0 := by
  obtain ⟨len, -, hlen⟩ := hg.mappedLen_eq_ok (ε := CreateError)
  obtain ⟨-, hends⟩ := Region.run_allocate_of_sound p hg hpayload hlen s
  generalize (p.mapPages len s).1.answer = answer at hends
  have haside := Region.allocate_aside p hg hpayload s
  refine Trace.candid_of_uninformed (flagged_of_forall fun e he => (haside e he).2) ?_
    (recordCount_of_aside fun e he => (haside e he).1)
  refine Trace.announced_of_calm (fun cause hcause => ?_) fun habort => ?_
  · rw [hcause] at hends
    cases hends
    exact id
  · rw [habort] at hends
    cases hends

/-- A region that is not mapped is none because of a translation. -/
theorem Region.allocate_looks (p : Platform σ) (hg : g.Sound)
    (hpayload : payload.toNat = g.bufferSize.toNat * g.bufferCount.toNat) (s : σ) :
    (((Region.allocate p payload g.headerOffset).mapError CreateError.hugePages).run s).Looks
      0 := by
  have haside := Region.allocate_aside p hg hpayload s
  have hrun : ((Region.allocate p payload g.headerOffset).mapError CreateError.hugePages).run s =
    ⟨((Region.allocate p payload g.headerOffset).run s).events,
      ((Region.allocate p payload g.headerOffset).run s).state,
      ((Region.allocate p payload g.headerOffset).run s).outcome.mapError .hugePages⟩ := rfl
  rw [hrun, Trace.Looks]
  cases ((Region.allocate p payload g.headerOffset).run s).outcome with
  | ok _ => exact translated_of_aside fun e he => (haside e he).1
  | error _ => trivial
  | panic _ => trivial
  | abort => trivial

end

/-! ### Pools -/

/-- A pool is not refused a geometry because of a translation. -/
theorem Config.geometry_ne_translate (config : Config) (cause : TranslateError) :
    config.geometry ≠ .error (.translate cause) := by
  unfold Config.geometry Geometry.compute
  split_ifs
  case neg => exact fun h => nomatch Geometry.place_eq_error h
  all_goals exact nofun

namespace Pool

/-- What is seen of putting a pool together, once its pages are entered, and how it ends. -/
inductive Assembly (config : Config) (start : VirtAddr) :
    List Event → Outcome CreateError Pool → Prop where
  | unresolved (cause : TranslateError) :
    Assembly config start [.translate start (.error cause),
      .log (Notice.baseUnresolved config.name start cause)] (.error (.translate cause))
  | noMemory (phys : PhysAddr) :
    Assembly config start [.translate start (.ok phys)] (.error .outOfMemory)
  | made (phys : PhysAddr) (pool : Pool) :
    Assembly config start [.translate start (.ok phys),
      .log (Notice.created config.name config.device pool.geometry.bufferCount
        pool.geometry.bufferSize pool.geometry.alignment pool.geometry.hugePages start phys)]
      (.ok pool)

section

variable {config : Config} {g : Geometry} {payload : UInt64} {region : Region}

theorem assemble_assembly (p : Platform σ) (config : Config) (hg : g.Sound)
    (hpayload : payload.toNat = g.bufferSize.toNat * g.bufferCount.toNat)
    (hheader : region.headerOffset = g.headerOffset)
    (hfit : region.mapping.toNat + g.hugePages.toNat * hugePageSize.toNat < UInt64.size)
    (table : PageTable) (s : σ) :
    ∃ start, Assembly config start ((assemble p config g payload region table).run s).events
      ((assemble p config g payload region table).run s).outcome := by
  obtain ⟨start, slots, hend, hstart, -, hslots, hbuffers⟩ :=
    parts_of_sound (ε := CreateError) hg hpayload hfit
  refine ⟨start, ?_⟩
  rw [assemble, Region.start, hheader, hstart, Action.ofOutcome_ok_bind]
  cases hphys : (p.translate start s).1 with
  | error cause =>
    have hbase : (resolveBase p config.name start).run s
        = ⟨[.translate start (.error cause),
            .log (Notice.baseUnresolved config.name start cause)], (p.translate start s).2,
          .error (.translate cause)⟩ := by
      show resolveBase p config.name start s = _
      rw [resolveBase, p.run_resolve, hphys]
      rfl
    rw [Action.run_bind, hbase]
    exact .unresolved cause
  | ok phys =>
    have hbase : (resolveBase p config.name start).run s
        = ⟨[.translate start (.ok phys)], (p.translate start s).2, .ok phys⟩ := by
      show resolveBase p config.name start s = _
      rw [resolveBase, p.run_resolve, hphys]
      rfl
    have hmemory :=
      p.run_requestMemory g.bufferCount.toNat FreeStack.slotBytes (p.translate start s).2
    rw [Action.run_bind_of_ok hbase]
    by_cases hgranted :
        (p.reserve (g.bufferCount.toNat * FreeStack.slotBytes) (p.translate start s).2).1
    · rw [if_pos hgranted] at hmemory
      rw [Action.run_bind_of_ok hmemory, hslots, Action.ofOutcome_ok_bind, hbuffers]
      exact .made phys ⟨config.name, config.device, g, ⟨start, payload, hend⟩, phys, ⟨slots, 0⟩,
        table, region⟩
    · rw [if_neg hgranted] at hmemory
      rw [Action.run_bind, hmemory]
      exact .noMemory phys

/-- Putting a pool together informs if the pool is there in the end. -/
theorem Assembly.candid {start : VirtAddr} {t : Trace σ CreateError Pool}
    (h : Assembly config start t.events t.outcome) (p : Platform σ) : t.Candid p 1 := by
  obtain ⟨events, s, outcome⟩ := t
  cases h with
  | unresolved cause => exact ⟨⟨False.elim, False.elim, trivial⟩, trivial, rfl⟩
  | noMemory phys => exact ⟨⟨False.elim, trivial⟩, trivial, rfl⟩
  | made phys pool => exact ⟨⟨False.elim, False.elim, trivial⟩, trivial, rfl⟩

/-- A translation that fails here is that of the first buffer, and is warned of. -/
theorem Assembly.warns {start : VirtAddr} {t : Trace σ CreateError Pool}
    (h : Assembly config start t.events t.outcome) : t.Warns 0 := by
  obtain ⟨events, s, outcome⟩ := t
  cases h with
  | unresolved cause =>
    rintro _ ⟨⟩
    refine ⟨0, _, ⟨[], start, rfl, [], rfl, rfl⟩, rfl, Nat.le_refl 0, iff_of_true ?_ rfl⟩
    refine ⟨Notice.baseUnresolved config.name start cause, List.mem_singleton.mpr rfl, rfl, ?_⟩
    show Notice.poolOrigin ≠ Notice.pagesOrigin
    decide
  | noMemory phys => exact nofun
  | made phys pool => exact nofun

/-- The pages of a table that was built end at an address. -/
theorem fits_of_build {p : Platform σ} {mapper : Option MapperId} (hg : g.Sound)
    (hcount : region.pageCount = g.hugePages) {s : σ} {table : PageTable}
    (h : ((PageTable.build p mapper config.device region.mapping region.pageCount).run s).outcome
      = .ok table) :
    region.mapping.toNat + g.hugePages.toNat * hugePageSize.toNat < UInt64.size := by
  obtain ⟨-, -, hrecords⟩ := PageTable.build_eq_ok h
  rw [hcount] at hrecords
  exact fits_of_records hg.hugePages_pos hrecords

theorem furnish_candid (p : Platform σ) (mapper : Option MapperId) (hg : g.Sound)
    (hpayload : payload.toNat = g.bufferSize.toNat * g.bufferCount.toNat)
    (hheader : region.headerOffset = g.headerOffset) (hcount : region.pageCount = g.hugePages)
    (s : σ) : ((furnish p mapper config g payload region).run s).Candid p 1 := by
  have hbuild := PageTable.build_candid p mapper config.device region.mapping region.pageCount s
  refine hbuild.bind fun table htable => ?_
  have hfit := fits_of_build hg hcount htable
  obtain ⟨start, hassembly⟩ := assemble_assembly p config hg hpayload hheader hfit table
    ((PageTable.build p mapper config.device region.mapping region.pageCount).run s).state
  exact (hassembly.candid p).onFailure (.table table)

theorem furnish_warns (p : Platform σ) (mapper : Option MapperId) (hg : g.Sound)
    (hpayload : payload.toNat = g.bufferSize.toNat * g.bufferCount.toNat)
    (hheader : region.headerOffset = g.headerOffset) (hcount : region.pageCount = g.hugePages)
    (s : σ) : ((furnish p mapper config g payload region).run s).Warns g.hugePages.toNat := by
  have hbuild := PageTable.build_looks p mapper config.device region.mapping region.pageCount s
  rw [hcount] at hbuild
  rw [furnish, hcount, ← Nat.add_zero g.hugePages.toNat]
  refine hbuild.bind_warns fun table htable => ?_
  rw [← hcount] at htable
  have hfit := fits_of_build hg hcount htable
  obtain ⟨start, hassembly⟩ := assemble_assembly p config hg hpayload hheader hfit table
    ((PageTable.build p mapper config.device region.mapping g.hugePages).run s).state
  exact hassembly.warns.onFailure (.table table)

/-- Making a pool with a geometry is mapping a region for it and furnishing this. -/
theorem create_eq_of_geometry (p : Platform σ) (mapper : Option MapperId)
    (hgeometry : config.geometry = .ok g) :
    g.Sound ∧ ∃ payload, payload.toNat = g.bufferSize.toNat * g.bufferCount.toNat ∧
      create p mapper config =
        ((Region.allocate p payload g.headerOffset).mapError .hugePages >>= fun region =>
          (furnish p mapper config g payload region).onFailure (region.release p)) := by
  have hg : g.Sound := (Geometry.compute_eq_ok (Config.compute_of_geometry hgeometry)).2.2.2
  obtain ⟨payload, hpayload, hnat⟩ := hg.payloadLen_eq_ok (ε := CreateError)
  refine ⟨hg, payload, hnat, ?_⟩
  rw [create, hgeometry, Action.ofOutcome_ok_bind, hpayload, Action.ofOutcome_ok_bind]

/-- Without a geometry nothing happens. -/
theorem run_create_of_refused (p : Platform σ) (mapper : Option MapperId) (s : σ)
    {cause : CreateError} (h : config.geometry = .error cause) :
    (create p mapper config).run s = ⟨[], s, .error cause⟩ := by
  rw [create, h]
  rfl

theorem layout_of_allocate {p : Platform σ} {s : σ} (hg : g.Sound)
    (hpayload : payload.toNat = g.bufferSize.toNat * g.bufferCount.toNat)
    (h : (((Region.allocate p payload g.headerOffset).mapError CreateError.hugePages).run s).outcome
      = .ok region) : region.headerOffset = g.headerOffset ∧ region.pageCount = g.hugePages := by
  obtain ⟨hheader, hlen, -⟩ :=
    Region.allocate_eq_ok hg hpayload (Action.run_mapError_eq_ok_iff.mp h)
  exact ⟨hheader, Region.pageCount_eq hlen⟩

/-- **Creation**: making a pool informs once if it succeeds, and not at all if it fails.  Whatever
goes wrong at a mapper is told at once, and nothing is told between that and the panic. -/
theorem create_candid (p : Platform σ) (mapper : Option MapperId) (config : Config) (s : σ) :
    ((create p mapper config).run s).Candid p 1 := by
  have hsettled := config.geometry_settled
  cases hgeometry : config.geometry with
  | error cause =>
    rw [run_create_of_refused p mapper s hgeometry]
    exact ⟨trivial, trivial, rfl⟩
  | panic cause =>
    rw [hgeometry] at hsettled
    exact hsettled.elim
  | abort =>
    rw [hgeometry] at hsettled
    exact hsettled.elim
  | ok g =>
    obtain ⟨hg, payload, hpayload, heq⟩ := create_eq_of_geometry p mapper hgeometry
    rw [heq]
    refine ((Region.allocate_candid p hg hpayload s).mapError _).bind fun region hregion => ?_
    obtain ⟨hheader, hcount⟩ := layout_of_allocate hg hpayload hregion
    exact (furnish_candid p mapper hg hpayload hheader hcount _).onFailure (.region region)

/-- A translation that fails is warned of if and only if all the pages were entered before it. -/
theorem create_warns (p : Platform σ) (mapper : Option MapperId)
    (hgeometry : config.geometry = .ok g) (s : σ) :
    ((create p mapper config).run s).Warns g.hugePages.toNat := by
  obtain ⟨hg, payload, hpayload, heq⟩ := create_eq_of_geometry p mapper hgeometry
  rw [heq, ← Nat.zero_add g.hugePages.toNat]
  refine (Region.allocate_looks p hg hpayload s).bind_warns fun region hregion => ?_
  obtain ⟨hheader, hcount⟩ := layout_of_allocate hg hpayload hregion
  exact (furnish_warns p mapper hg hpayload hheader hcount _).onFailure (.region region)

end

/-- Destroying a pool is logged before anything is done. -/
theorem run_release (p : Platform σ) (pool : Pool) (s : σ) :
    ∃ t : Trace σ Empty Unit, t = ((pool.table.release p).andThen (pool.region.release p)).run s ∧
      (pool.release p).run s = ⟨.log (Notice.destroying pool.name pool.available
        pool.geometry.bufferCount pool.region.mappedLen) :: t.events, t.state, t.outcome⟩ := by
  refine ⟨_, rfl, ?_⟩
  generalize ht : ((pool.table.release p).andThen (pool.region.release p)).run s = t
  have hrun : (pool.release p).run s = ⟨.log (Notice.destroying pool.name pool.available
      pool.geometry.bufferCount pool.region.mappedLen) :: t.events, t.state,
      (Outcome.ok () : Outcome Empty Unit).afterCleanup t.outcome⟩ := by
    rw [← ht]
    rfl
  rw [hrun]
  cases t.outcome with
  | error cause => exact cause.elim
  | _ => rfl

/-- **Destruction**: destroying a pool informs first, and of nothing else.  Whatever goes wrong at a
mapper then is told at once. -/
theorem release_informs (p : Platform σ) (pool : Pool) (s : σ) :
    (∃ record rest, ((pool.release p).run s).events = .log record :: rest ∧
      record.level = .info ∧ recordCount .info rest = 0) ∧
    Flagged ((pool.release p).run s).events ∧ ((pool.release p).run s).Announced p := by
  obtain ⟨t, ht, hrun⟩ := pool.run_release p s
  have hcandid : t.Candid p 0 := by
    rw [ht]
    exact (Trace.candid_of_cleanup (.table pool.table) s).cleanUp (.region pool.region)
  rw [hrun]
  exact ⟨⟨_, _, rfl, rfl, hcandid.uninformed⟩, ⟨False.elim, hcandid.flagged⟩,
    hcandid.announced.prepend [_]⟩

/-- Taking a buffer leaves no trace, unless it panics. -/
theorem allocate_silent (pool : Pool) :
    (allocate.run pool).events = [] ∨ ∃ cause, (allocate.run pool).outcome = .panic cause := by
  show (allocate pool).events = [] ∨ ∃ cause, (allocate pool).outcome = .panic cause
  rw [allocate]
  rcases pool.free.pop with cause | ⟨virt, rest⟩
  · exact Or.inl rfl
  · cases hbus : pool.toBus? virt with
    | some bus =>
      simp only [hbus]
      exact Or.inl trivial
    | none =>
      simp only [hbus]
      exact Or.inr ⟨_, rfl⟩

/-- Returning a buffer leaves no trace. -/
theorem giveBack_silent (pool : Pool) (va : VirtAddr) :
    ((giveBack va).run pool).events = [] := by
  obtain ⟨free, answer, hrun⟩ := pool.run_giveBack_frame va
  rw [hrun]

end Pool

/-! ### Sessions -/

/-- The operations that a client asks for while it works with the buffers of a pool. -/
def PoolCommand.Hot : PoolCommand → Prop
  | .allocate => True
  | .giveBack _ => True
  | .toBus _ => True
  | .toVirtual _ => True
  | .indexOf _ => True
  | _ => False

/-- Work with buffers leaves no trace, unless taking one panics. -/
theorem Session.events_of_hot (session : Session σ) (name : String) (h : Holding)
    {command : PoolCommand} (hhot : command.Hot) :
    (session.runOnPool name h command).events = [] ∨ command = .allocate ∧
      ∃ cause, (session.runOnPool name h command).reply = .panicked cause := by
  have haddress : ∀ place next, (∀ address, (next address : Step σ).events = []) →
      (session.withAddress h place next).events = [] := by
    intro place next hnext
    unfold Session.withAddress
    cases h.address? place with
    | some address => exact hnext address
    | none => rfl
  cases command with
  | allocate =>
    refine h.pool.allocate_silent.imp id fun ⟨cause, hpanic⟩ => ⟨rfl, cause, ?_⟩
    show (Pool.allocate.run h.pool).outcome.reply _ _ = _
    rw [hpanic]
    rfl
  | giveBack place =>
    exact Or.inl (haddress place _ fun address => h.pool.giveBack_silent ⟨address⟩)
  | toBus place => exact Or.inl (haddress place _ fun _ => rfl)
  | toVirtual place => exact Or.inl (haddress place _ fun _ => rfl)
  | indexOf place => exact Or.inl (haddress place _ fun _ => rfl)
  | _ => exact hhot.elim

/-- **Records**: making a pool informs once if it succeeds, and not at all if it fails.  A page that
is not mapped or not unmapped is told of at once, with an error record, and the panic starts right
after it.  When a translation fails there is a warning after it if all pages were entered before,
so that it is that of the first buffer, and none otherwise.  Destroying a pool informs first and
once.  Work with buffers leaves no records, unless taking one panics. -/
theorem Context.notices_exact (context : Context σ) :
    (∀ config s, ((context.createPool config).run s).Candid context.platform 1 ∧
      ∀ cause, ((context.createPool config).run s).outcome = .error (.translate cause) →
        ∃ g done after, config.geometry = .ok g ∧
          FailsAfter ((context.createPool config).run s).events cause done after ∧
          answersOf after = [] ∧ done ≤ g.hugePages.toNat ∧
          (Warned after ↔ done = g.hugePages.toNat)) ∧
    (∀ (pool : Pool) s,
      (∃ record rest, ((pool.release context.platform).run s).events = .log record :: rest ∧
        record.level = .info ∧ recordCount .info rest = 0) ∧
      Flagged ((pool.release context.platform).run s).events ∧
      ((pool.release context.platform).run s).Announced context.platform) ∧
    (∀ pool : Pool,
      ((Pool.allocate.run pool).events = [] ∨
        ∃ cause, (Pool.allocate.run pool).outcome = .panic cause) ∧
      ∀ va, ((Pool.giveBack va).run pool).events = []) ∧
    ∀ (session : Session σ) (name : String) (h : Holding) (command : PoolCommand), command.Hot →
      (session.runOnPool name h command).events = [] ∨ command = .allocate ∧
        ∃ cause, (session.runOnPool name h command).reply = .panicked cause := by
  refine ⟨fun config s => ⟨?_, fun cause hout => ?_⟩, fun pool s => ?_, fun pool => ?_, ?_⟩
  · exact Pool.create_candid context.platform context.mapper config s
  · -- without a geometry nothing is translated
    have hsettled := config.geometry_settled
    cases hgeometry : config.geometry with
    | error cause' =>
      have hrun := Pool.run_create_of_refused context.platform context.mapper s hgeometry
      have hcause := Outcome.error.inj ((congrArg Trace.outcome hrun).symm.trans hout)
      rw [hcause] at hgeometry
      exact (config.geometry_ne_translate cause hgeometry).elim
    | panic _ =>
      rw [hgeometry] at hsettled
      exact hsettled.elim
    | abort =>
      rw [hgeometry] at hsettled
      exact hsettled.elim
    | ok g =>
      obtain ⟨done, after, hwarns⟩ :=
        Pool.create_warns context.platform context.mapper hgeometry s cause hout
      exact ⟨g, done, after, rfl, hwarns⟩
  · exact Pool.release_informs context.platform pool s
  · exact ⟨pool.allocate_silent, pool.giveBack_silent⟩
  · exact fun session name h command hhot => session.events_of_hot name h hhot

/-- The resolver refuses the only page of a pool: the pool is not made, and nobody is warned. -/
theorem Context.refused_page_not_warned :
    let script : Script := { resolver := { refused := [1] } }
    let t := (Context.createPool ⟨script.platform, none⟩ ⟨"p", {}, 64, 1, 64⟩).run script.start
    (∃ cause, t.outcome = .error (.translate cause)) ∧ recordCount .warn t.events = 0 := by
  refine ⟨⟨_, rfl⟩, ?_⟩
  decide +kernel

end HugePool
