import HugePool.Platform.Scripted
import HugePool.Proofs.Journal.Conversation

/-!
# Attempts to make a pool

`Attempt` lists every conversation that an attempt to make a pool can have with its platform, and
how the attempt ends then:

* a request without a geometry is refused before anything is asked;
* if there is one, huge pages of the length of the geometry are asked for, once;
* if these are refused, nothing else is asked;
* otherwise the pages are entered in the order of their addresses (`Site.entering`), and then the
  address of the first buffer is translated.

At the first thing that goes wrong (`Attempt.Fails`) the pages that were entered by then are
unmapped, in the same order, and the huge pages are given back; that is all.

`Pool.create_tells` shows that making a pool is an attempt, by one lemma for each of its steps.
-/

namespace HugePool

variable {σ ε : Type}

/-! ### What is asked for -/

/-- The huge pages of a pool to be, and who is to see them. -/
structure Site where
  mapper : Option MapperId
  device : Device
  start : VirtAddr

structure Entry where
  phys : PhysAddr
  record : PageRecord

/-- How the pages of a table are unmapped: one after the other, without a refusal. -/
def PageTable.unmapping (t : PageTable) : List Exchange :=
  match t.mapper with
  | some mapper =>
    t.records.map fun r => .call (.unmapBus mapper t.device r.bus hugePageSize (.ok ()))
  | none => []

namespace Site

/-- How a page is shown to the device: its address is translated, and the mapper is asked for it, if
there is one. -/
def showing (site : Site) (virt : VirtAddr) (phys : PhysAddr) (bus : BusAddr) : List Exchange :=
  .call (.translate virt (.ok phys)) ::
    match site.mapper with
    | some mapper => [.call (.mapBus mapper site.device phys hugePageSize (.ok bus))]
    | none => []

/-- The device sees the page there.  Without a mapper it sees memory as it is. -/
def Sees (site : Site) (phys : PhysAddr) (bus : BusAddr) : Prop :=
  site.mapper = none → bus = phys.toBus

/-- The address of page number `k`. -/
def IsPage (site : Site) (k : Nat) (virt : VirtAddr) : Prop :=
  virt.toNat = site.start.toNat + k * hugePageSize.toNat

/-- The entries are those of the first pages, in the order of their addresses. -/
def Entered (site : Site) (entries : List Entry) : Prop :=
  ∀ k e, entries[k]? = some e → site.IsPage k e.record.virt ∧ site.Sees e.phys e.record.bus

def showings (site : Site) (entries : List Entry) : List Exchange :=
  entries.flatMap fun e => site.showing e.record.virt e.phys e.record.bus

/-- How pages are entered, in a table with room for all of them. -/
def entering (site : Site) (g : Geometry) (entries : List Entry) : List Exchange :=
  .memory (g.hugePages.toNat * PageRecord.bytes) true :: site.showings entries

theorem Entered.nil (site : Site) : site.Entered [] := nofun

theorem Entered.concat {site : Site} {entries : List Entry} (h : site.Entered entries) {e : Entry}
    (hvirt : site.IsPage entries.length e.record.virt) (hsees : site.Sees e.phys e.record.bus) :
    site.Entered (entries ++ [e]) := by
  intro k e' he
  rcases Nat.lt_trichotomy k entries.length with hlt | rfl | hgt
  · rw [List.getElem?_append_left hlt] at he
    exact h k e' he
  · rw [List.getElem?_concat_length] at he
    cases he
    exact ⟨hvirt, hsees⟩
  · have hlength : (entries ++ [e]).length ≤ k := by
      rw [List.length_append, List.length_singleton]
      exact hgt
    rw [List.getElem?_eq_none hlength] at he
    cases he

def table (site : Site) (entries : List Entry) : PageTable :=
  ⟨entries.map Entry.record, site.mapper, site.device⟩

theorem unmapping_table_nil (site : Site) : (site.table []).unmapping = [] := by
  unfold PageTable.unmapping table
  cases site.mapper <;> rfl

end Site

namespace Attempt

/-- How the page at `virt` can fail. -/
inductive PageFails (site : Site) (virt : VirtAddr) : List Exchange → Fault CreateError → Prop where
  | untranslated (cause : TranslateError) :
    PageFails site virt [.call (.translate virt (.error cause))] (.error (.translate cause))
  | refused (mapper : MapperId) (hmapper : site.mapper = some mapper) (phys : PhysAddr)
      (cause : BusError) :
    PageFails site virt
      [.call (.translate virt (.ok phys)),
        .call (.mapBus mapper site.device phys hugePageSize (.error cause))]
      (.panic (.busMappingFailed cause))
  /-- The bus address has no room for a page. -/
  | misplaced (phys : PhysAddr) (bus : BusAddr) (hsees : site.Sees phys bus)
      (hroom : UInt64.size ≤ bus.toNat + hugePageSize.toNat) :
    PageFails site virt (site.showing virt phys bus)
      (.panic (.busMappingFailed (.overflow site.device phys bus)))

/-- How an attempt can fail that has got huge pages: what is asked, which pages are entered by then,
and with which fault it ends. -/
inductive Fails (site : Site) (g : Geometry) :
    List Exchange → List Entry → Fault CreateError → Prop where
  /-- There is no memory for the table. -/
  | noTable :
    Fails site g [.memory (g.hugePages.toNat * PageRecord.bytes) false] [] (.error .outOfMemory)
  | page (entries : List Entry) (virt : VirtAddr) (story : List Exchange)
      (fault : Fault CreateError) (hentered : site.Entered entries)
      (hlt : entries.length < g.hugePages.toNat) (hvirt : site.IsPage entries.length virt)
      (hpage : PageFails site virt story fault) :
    Fails site g (site.entering g entries ++ story) entries fault
  /-- The address of the first buffer is not known. -/
  | base (entries : List Entry) (start : VirtAddr) (cause : TranslateError)
      (hentered : site.Entered entries) (hall : entries.length = g.hugePages.toNat)
      (hstart : start.toNat = site.start.toNat + g.headerOffset.toNat) :
    Fails site g (site.entering g entries ++ [.call (.translate start (.error cause))]) entries
      (.error (.translate cause))
  /-- There is no memory for the stack of free buffers. -/
  | noStack (entries : List Entry) (start : VirtAddr) (phys : PhysAddr)
      (hentered : site.Entered entries) (hall : entries.length = g.hugePages.toNat)
      (hstart : start.toNat = site.start.toNat + g.headerOffset.toNat) :
    Fails site g
      (site.entering g entries ++ [.call (.translate start (.ok phys)),
        .memory (g.bufferCount.toNat * FreeStack.slotBytes) false]) entries
      (.error .outOfMemory)

structure Makes (site : Site) (g : Geometry) (config : Config) (len : UInt64)
    (entries : List Entry) (phys : PhysAddr) (pool : Pool) : Prop where
  name_eq : pool.name = config.name
  device_eq : pool.device = config.device
  geometry_eq : pool.geometry = g
  mapping_eq : pool.region.mapping = site.start
  mappedLen_eq : pool.region.mappedLen = len
  base_eq : pool.basePhysical = phys
  table_eq : pool.table = site.table entries

end Attempt

/-- The conversations of attempts to make a pool, with their endings. -/
inductive Attempt (mapper : Option MapperId) (config : Config) :
    List Exchange → Outcome CreateError Pool → Prop where
  | illegal (cause : CreateError) (hgeometry : config.geometry = .error cause) :
    Attempt mapper config [] (.error cause)
  | noPages (g : Geometry) (len : UInt64) (cause : PagesError)
      (hgeometry : config.geometry = .ok g)
      (hlen : (g.mappedLen : Outcome CreateError UInt64) = .ok len) :
    Attempt mapper config [.call (.mapPages len (.error cause))] (.error (.hugePages cause))
  | failed (g : Geometry) (len : UInt64) (mapping : VirtAddr) (story : List Exchange)
      (entries : List Entry) (fault : Fault CreateError) (hgeometry : config.geometry = .ok g)
      (hlen : (g.mappedLen : Outcome CreateError UInt64) = .ok len)
      (hfails : Attempt.Fails ⟨mapper, config.device, mapping⟩ g story entries fault) :
    Attempt mapper config
      (.call (.mapPages len (.ok mapping)) ::
        (story ++ (Site.table ⟨mapper, config.device, mapping⟩ entries).unmapping
          ++ [.call (.unmapPages mapping len)]))
      fault.outcome
  | made (g : Geometry) (len : UInt64) (mapping start : VirtAddr) (entries : List Entry)
      (phys : PhysAddr) (pool : Pool) (hgeometry : config.geometry = .ok g)
      (hlen : (g.mappedLen : Outcome CreateError UInt64) = .ok len)
      (hentered : Site.Entered ⟨mapper, config.device, mapping⟩ entries)
      (hall : entries.length = g.hugePages.toNat)
      (hstart : start.toNat = mapping.toNat + g.headerOffset.toNat)
      (hmakes : Attempt.Makes ⟨mapper, config.device, mapping⟩ g config len entries phys pool) :
    Attempt mapper config
      (.call (.mapPages len (.ok mapping)) ::
        (Site.entering ⟨mapper, config.device, mapping⟩ g entries
          ++ [.call (.translate start (.ok phys)),
            .memory (g.bufferCount.toNat * FreeStack.slotBytes) true]))
      (.ok pool)

/-! ### Giving back -/

theorem PageTable.unmapAll_tells (p : Platform σ) (mapper : MapperId) (device : Device)
    (records : List PageRecord) :
    (PageTable.unmapAll p mapper device records).Says p
      (records.map fun r => .call (.unmapBus mapper device r.bus hugePageSize (.ok ()))) := by
  induction records with
  | nil => exact Action.Tells.ofOutcome rfl
  | cons record rest ih =>
    refine (p.returnBus_tells mapper device record.bus hugePageSize).bind ?_ fun _ _ => False.elim
    rintro _ _ ⟨rfl, rfl⟩
    exact ih.imp (fun _ _ hrest => congrArg (List.cons _) hrest) fun _ _ => id

theorem PageTable.release_tells (p : Platform σ) (t : PageTable) :
    (t.release p).Says p t.unmapping := by
  unfold PageTable.release PageTable.unmapping
  cases t.mapper with
  | none => exact Action.Tells.ofOutcome rfl
  | some mapper => exact PageTable.unmapAll_tells p mapper t.device t.records

theorem Region.release_tells (p : Platform σ) (r : Region) :
    (r.release p).Says p [.call (.unmapPages r.mapping r.mappedLen)] :=
  Action.Tells.note_bind (p.returnPages_tells r.mapping r.mappedLen)

/-! ### The region -/

section

variable {g : Geometry} {payload len : UInt64}

theorem Region.lengthFor_of_sound (hg : g.Sound)
    (hpayload : payload.toNat = g.bufferSize.toNat * g.bufferCount.toNat)
    (hlen : len.toNat = g.hugePages.toNat * hugePageSize.toNat) :
    Region.lengthFor payload g.headerOffset = .ok len := by
  have hwhole := hg.whole
  have htight := hg.tight
  have hfits := hg.fits
  rw [toNat_hugePageSize] at hlen
  have hsum : payload.toNat + g.headerOffset.toNat < UInt64.size := by omega
  have htotal : (UInt64.ofNat (payload.toNat + g.headerOffset.toNat)).toNat
      = payload.toNat + g.headerOffset.toNat := UInt64.toNat_ofNat_of_lt' hsum
  have hround : Word.alignUp? (UInt64.ofNat (payload.toNat + g.headerOffset.toNat)) hugePageSize
      = some len := by
    refine (Word.alignUp?_eq_some_iff Geometry.isPowerOfTwo_hugePageSize).mpr ⟨?_, ?_, ?_⟩
    · exact ⟨g.hugePages.toNat, by rw [hlen, toNat_hugePageSize, Nat.mul_comm]⟩
    · omega
    · rw [htotal, toNat_hugePageSize]
      omega
  have hadd := Word.add?_eq_some_iff.mpr htotal
  refine Outcome.bind_eq_ok_iff.mpr ⟨_, Outcome.ofOption_eq_ok_iff.mpr hadd, ?_⟩
  rw [Word.alignUp_of_isPowerOfTwo Geometry.isPowerOfTwo_hugePageSize, Outcome.ok_bind]
  exact Outcome.ofOption_eq_ok_iff.mpr hround

/-- A multiple of the huge page is at no distance from the start of its huge page. -/
theorem Address.offsetIn_huge_of_dvd {space : Space} {a : Address space}
    (h : hugePageSize.toNat ∣ a.toNat) : a.offsetIn .huge = 0 := by
  have hmod : (a.word &&& (hugePageSize - 1)).toNat = a.word.toNat % hugePageSize.toNat :=
    Geometry.isPowerOfTwo_hugePageSize.toNat_and_sub_one a.word
  apply UInt64.toNat_inj.mp
  exact hmod.trans (Nat.mod_eq_zero_of_dvd h)

theorem Region.allocate_tells (p : Platform σ) (hg : g.Sound)
    (hpayload : payload.toNat = g.bufferSize.toNat * g.bufferCount.toNat)
    (hlen : len.toNat = g.hugePages.toNat * hugePageSize.toNat) :
    (Region.allocate p payload g.headerOffset).Tells p
      (fun story region => story = [.call (.mapPages len (.ok region.mapping))] ∧
        region.mapping.toNat + len.toNat < UInt64.size ∧
        region.headerOffset = g.headerOffset ∧ region.mappedLen = len)
      fun story fault => ∃ cause, fault = .error cause ∧
        story = [.call (.mapPages len (.error cause))] := by
  rw [Region.allocate, Outcome.require_pos hg.wordBytes_le, Action.ofOutcome_ok_bind,
    Region.lengthFor_of_sound hg hpayload hlen, Action.ofOutcome_ok_bind]
  refine (p.requestPages_tells len).bind ?_ fun _ _ h => h
  rintro _ mapping ⟨rfl, haligned, hfit⟩
  rw [Outcome.require_pos (Address.offsetIn_huge_of_dvd haligned), Action.ofOutcome_ok_bind]
  refine Action.Tells.note_bind (Action.Tells.ofOutcome ⟨rfl, hfit, rfl, ?_⟩)
  exact Memory.word_storeWord _ _ _

end

/-! ### The pages -/

namespace PageTable

theorem failMapping_tells (p : Platform σ) {phys : PhysAddr} {cause : BusError} {α : Type}
    {done : List Exchange → α → Prop} {failed : List Exchange → Fault ε → Prop}
    (hfailed : failed [] (.panic (.busMappingFailed cause))) :
    (failMapping phys cause : Action σ ε α).Tells p done failed :=
  Action.Tells.note_bind (Action.Tells.ofFault (.panic (.busMappingFailed cause)) hfailed)

/-- Where the device sees a page is what the mapper answers, if there is one. -/
theorem busOf_tells (p : Platform σ) (site : Site) (virt : VirtAddr) (phys : PhysAddr) :
    (busOf p site.mapper site.device phys : Action σ CreateError _).Tells p
      (fun story bus => .call (.translate virt (.ok phys)) :: story = site.showing virt phys bus ∧
        site.Sees phys bus)
      fun story fault =>
        Attempt.PageFails site virt (.call (.translate virt (.ok phys)) :: story) fault := by
  unfold busOf Site.showing Site.Sees
  cases hmapper : site.mapper with
  | none => exact Action.Tells.ofOutcome ⟨rfl, fun _ => rfl⟩
  | some mapper =>
    refine (p.requestBus_tells mapper site.device phys hugePageSize).bind ?_ fun _ _ => False.elim
    rintro _ (cause | bus) rfl
    · exact failMapping_tells p (.refused mapper hmapper phys cause)
    · exact Action.Tells.ofOutcome ⟨rfl, nofun⟩

theorem recordPage_tells (p : Platform σ) (site : Site) (k : Nat)
    (hfit : site.start.toNat + (k + 1) * hugePageSize.toNat < UInt64.size) :
    (recordPage p site.mapper site.device site.start k).Tells p
      (fun story record => ∃ phys, story = site.showing record.virt phys record.bus ∧
        site.IsPage k record.virt ∧ site.Sees phys record.bus)
      fun story fault => ∃ virt, site.IsPage k virt ∧
        Attempt.PageFails site virt story fault := by
  rw [Nat.succ_mul] at hfit
  -- the page ends at an address, so its start and its range are computed without an overflow
  have hpage : k * 1 ≤ k * hugePageSize.toNat := Nat.mul_le_mul_left _ (by decide)
  obtain ⟨virt, hvirt, hnat⟩ := Pool.bufferAt_eq_ok (ε := CreateError) site.start hugePageSize k
    (by omega) (by omega)
  have hfits : virt.toNat + hugePageSize.toNat < UInt64.size := by omega
  rw [Pool.bufferAt] at hvirt
  rw [recordPage, hvirt, Action.ofOutcome_ok_bind]
  refine ((p.resolve_tells virt).mapError CreateError.translate).bind ?_ ?_
  · rintro _ phys rfl
    refine (busOf_tells p site virt phys).bind ?_ fun story fault hfails => ⟨virt, hnat, hfails⟩
    rintro story bus ⟨hstory, hsees⟩
    by_cases hb : bus.toNat + hugePageSize.toNat < UInt64.size
    · rw [dif_pos hb, dif_pos hfits]
      refine Action.Tells.note_bind (Action.Tells.ofOutcome ⟨phys, ?_, hnat, hsees⟩)
      rw [List.append_nil]
      exact hstory
    · rw [dif_neg hb]
      refine failMapping_tells p ⟨virt, hnat, ?_⟩
      rw [List.append_nil]
      show Attempt.PageFails site virt (_ :: story) _
      rw [hstory]
      exact .misplaced phys bus hsees (Nat.not_lt.mp hb)
  · rintro _ _ ⟨_, ⟨cause, rfl, rfl⟩, rfl⟩
    exact ⟨virt, hnat, .untranslated cause⟩

/-- The pages that are entered next follow those that were entered before. -/
theorem extend_tells (p : Platform σ) (site : Site) (count : Nat) (entries : List Entry)
    (hentered : site.Entered entries)
    (hfit : site.start.toNat + (entries.length + count) * hugePageSize.toNat < UInt64.size) :
    (extend p site.start (site.table entries) count).Tells p
      (fun story t => ∃ more, more.length = count ∧ site.Entered (entries ++ more) ∧
        story = site.showings more ∧ t = site.table (entries ++ more))
      fun story fault => ∃ more virt last, more.length < count ∧ site.Entered (entries ++ more) ∧
        site.IsPage (entries ++ more).length virt ∧ Attempt.PageFails site virt last fault ∧
        story = site.showings more ++ last ++ (site.table (entries ++ more)).unmapping := by
  -- on the pages that are left, after the entries that a failure has to undo
  induction count generalizing entries with
  | zero =>
    refine Action.Tells.ofOutcome ⟨[], rfl, ?_, rfl, ?_⟩
    · rw [List.append_nil]
      exact hentered
    · rw [List.append_nil]
  | succ count ih =>
    have hnext : (entries.length + 1) * hugePageSize.toNat
        ≤ (entries.length + (count + 1)) * hugePageSize.toNat := Nat.mul_le_mul_right _ (by omega)
    have hlength : (site.table entries).records.length = entries.length := List.length_map ..
    have hrecord := (recordPage_tells p site entries.length (by omega)).onFailure
      ((site.table entries).release_tells p)
    rw [extend, hlength]
    refine hrecord.bind ?_ ?_
    · rintro _ record ⟨phys, rfl, hvirt, hsees⟩
      have htable : ({ site.table entries with records := (site.table entries).records ++ [record] }
          : PageTable) = site.table (entries ++ [⟨phys, record⟩]) := by
        rw [Site.table, Site.table, List.map_append]
        rfl
      have hentered' := hentered.concat (e := ⟨phys, record⟩) hvirt hsees
      have hcount : (entries ++ [Entry.mk phys record]).length + count
          = entries.length + (count + 1) := by
        rw [List.length_append, List.length_singleton]
        omega
      rw [htable]
      refine (ih _ hentered' (by rw [hcount]; exact hfit)).imp ?_ ?_
      · rintro _ _ ⟨more, hmore, hall, rfl, rfl⟩
        rw [← List.append_cons] at hall ⊢
        exact ⟨⟨phys, record⟩ :: more, congrArg Nat.succ hmore, hall, rfl, rfl⟩
      · rintro _ fault ⟨more, virt, last, hmore, hall, hvirt, hfails, rfl⟩
        rw [← List.append_cons] at hall hvirt ⊢
        refine ⟨⟨phys, record⟩ :: more, virt, last, Nat.succ_lt_succ hmore, hall, hvirt, hfails, ?_⟩
        simp only [Site.showings, List.flatMap_cons, List.append_assoc]
    · rintro _ fault ⟨last, ⟨virt, hvirt, hfails⟩, rfl⟩
      refine ⟨[], virt, last, Nat.succ_pos count, ?_⟩
      rw [List.append_nil]
      exact ⟨hentered, hvirt, hfails, rfl⟩

theorem build_tells (p : Platform σ) (site : Site) {g : Geometry} {pages : UInt64}
    (hpages : pages.toNat = g.hugePages.toNat)
    (hfit : site.start.toNat + g.hugePages.toNat * hugePageSize.toNat < UInt64.size) :
    (build p site.mapper site.device site.start pages).Tells p
      (fun story t => ∃ entries, site.Entered entries ∧ entries.length = g.hugePages.toNat ∧
        story = site.entering g entries ∧ t = site.table entries)
      fun story fault => ∃ told entries, Attempt.Fails site g told entries fault ∧
        story = told ++ (site.table entries).unmapping := by
  rw [build, hpages]
  refine (p.requestMemory_tells _ _).bind ?_ ?_
  · rintro _ _ rfl
    refine (extend_tells p site g.hugePages.toNat [] (Site.Entered.nil site) ?_).imp ?_ ?_
    · rw [List.length_nil, Nat.zero_add]
      exact hfit
    · rintro _ t ⟨entries, hall, hentered, rfl, rfl⟩
      exact ⟨entries, hentered, hall, rfl, rfl⟩
    · rintro _ fault ⟨entries, virt, last, hlt, hentered, hvirt, hfails, rfl⟩
      refine ⟨_, entries, .page entries virt last fault hentered hlt hvirt hfails, ?_⟩
      simp only [Site.entering, List.cons_append, List.append_assoc, List.nil_append]
  · rintro _ _ ⟨rfl, rfl⟩
    refine ⟨_, [], .noTable, ?_⟩
    rw [site.unmapping_table_nil, List.append_nil]

end PageTable

/-! ### The pool -/

namespace Pool

theorem resolveBase_tells (p : Platform σ) (name : String) (start : VirtAddr) :
    (resolveBase p name start).Tells p
      (fun story phys => story = [.call (.translate start (.ok phys))])
      fun story fault => ∃ cause, fault = .error (.translate cause) ∧
        story = [.call (.translate start (.error cause))] := by
  intro s _
  have hanswer : p.Conversation s [.call (.translate start (p.translate start s).1)]
    (p.translate start s).2 := Platform.Answers.conversation rfl
  show ∃ story, (resolveBase p name start s).Shows p s story ∧
    (resolveBase p name start s).outcome.Meets _ _
  rw [resolveBase, p.run_resolve]
  cases hcall : (p.translate start s).1 with
  | ok phys =>
    rw [hcall] at hanswer
    exact ⟨_, ⟨hanswer, rfl⟩, rfl⟩
  | error cause =>
    rw [hcall] at hanswer
    exact ⟨_, ⟨hanswer, rfl⟩, cause, rfl, rfl⟩

variable {site : Site} {g : Geometry} {config : Config} {payload len : UInt64} {region : Region}

theorem assemble_tells (p : Platform σ) (hg : g.Sound) (entries : List Entry)
    (hentered : site.Entered entries) (hall : entries.length = g.hugePages.toNat)
    (hpayload : payload.toNat = g.bufferSize.toNat * g.bufferCount.toNat)
    (hmapping : region.mapping = site.start) (hheader : region.headerOffset = g.headerOffset)
    (hlen : region.mappedLen = len)
    (hfit : site.start.toNat + g.hugePages.toNat * hugePageSize.toNat < UInt64.size) :
    (assemble p config g payload region (site.table entries)).Tells p
      (fun story pool => ∃ start phys, start.toNat = site.start.toNat + g.headerOffset.toNat ∧
        Attempt.Makes site g config len entries phys pool ∧
        story = [.call (.translate start (.ok phys)),
          .memory (g.bufferCount.toNat * FreeStack.slotBytes) true])
      fun story fault =>
        Attempt.Fails site g (site.entering g entries ++ story) entries fault := by
  obtain ⟨start, slots, _, hstart, hnat, hslots, hbuffers⟩ :=
    parts_of_sound (ε := CreateError) hg hpayload hfit
  rw [assemble, Region.start, hmapping, hheader, hstart, Action.ofOutcome_ok_bind]
  refine (resolveBase_tells p config.name start).bind ?_ ?_
  · rintro _ phys rfl
    refine (p.requestMemory_tells _ _).bind ?_ ?_
    · rintro _ _ rfl
      rw [hslots, Action.ofOutcome_ok_bind]
      refine Action.Tells.note_bind ?_
      rw [hbuffers, Action.ofOutcome_ok_bind]
      refine Action.Tells.ofOutcome ⟨start, phys, hnat, ?_, rfl⟩
      exact ⟨rfl, rfl, rfl, hmapping, hlen, rfl, rfl⟩
    · rintro _ _ ⟨rfl, rfl⟩
      exact .noStack entries start phys hentered hall hnat
  · rintro _ _ ⟨cause, rfl, rfl⟩
    exact .base entries start cause hentered hall hnat

theorem furnish_tells (p : Platform σ) (hg : g.Sound) {mapping : VirtAddr}
    {mapper : Option MapperId}
    (hpayload : payload.toNat = g.bufferSize.toNat * g.bufferCount.toNat)
    (hlen : len.toNat = g.hugePages.toNat * hugePageSize.toNat)
    (hmapping : region.mapping = mapping) (hheader : region.headerOffset = g.headerOffset)
    (hmapped : region.mappedLen = len)
    (hfit : mapping.toNat + len.toNat < UInt64.size) :
    (furnish p mapper config g payload region).Tells p
      (fun story pool => ∃ entries start phys,
        Site.Entered ⟨mapper, config.device, mapping⟩ entries ∧
        entries.length = g.hugePages.toNat ∧
        start.toNat = mapping.toNat + g.headerOffset.toNat ∧
        Attempt.Makes ⟨mapper, config.device, mapping⟩ g config len entries phys pool ∧
        story = Site.entering ⟨mapper, config.device, mapping⟩ g entries
          ++ [.call (.translate start (.ok phys)),
            .memory (g.bufferCount.toNat * FreeStack.slotBytes) true])
      fun story fault => ∃ told entries,
        Attempt.Fails ⟨mapper, config.device, mapping⟩ g told entries fault ∧
        story = told ++ (Site.table ⟨mapper, config.device, mapping⟩ entries).unmapping := by
  have hcount : region.pageCount.toNat = g.hugePages.toNat :=
    congrArg UInt64.toNat (Region.pageCount_eq (by rw [hmapped, hlen]))
  rw [hlen] at hfit
  rw [furnish, hmapping]
  refine (PageTable.build_tells p ⟨mapper, config.device, mapping⟩ hcount hfit).bind ?_
    fun _ _ h => h
  rintro _ _ ⟨entries, hentered, hall, rfl, rfl⟩
  refine ((assemble_tells p hg entries hentered hall hpayload hmapping hheader hmapped
    hfit).onFailure ((Site.table _ entries).release_tells p)).imp ?_ ?_
  · rintro _ pool ⟨start, phys, hstart, hmakes, rfl⟩
    exact ⟨entries, start, phys, hentered, hall, hstart, hmakes, rfl⟩
  · rintro _ fault ⟨told, hfails, rfl⟩
    exact ⟨_, entries, hfails, (List.append_assoc ..).symm⟩

/-- **Creation**: making a pool is an attempt to make it. -/
theorem create_tells (p : Platform σ) (mapper : Option MapperId) (config : Config) :
    (create p mapper config).Tells p (fun story pool => Attempt mapper config story (.ok pool))
      fun story fault => Attempt mapper config story fault.outcome := by
  have hsettled := config.geometry_settled
  rw [create]
  cases hgeometry : config.geometry with
  | error cause => exact Action.Tells.ofFault (.error cause) (.illegal cause hgeometry)
  -- the arithmetic of a geometry neither panics nor aborts
  | panic cause =>
    rw [hgeometry] at hsettled
    exact hsettled.elim
  | abort =>
    rw [hgeometry] at hsettled
    exact hsettled.elim
  | ok g =>
    have hsound : g.Sound := (Geometry.compute_eq_ok (Config.compute_of_geometry hgeometry)).2.2.2
    obtain ⟨payload, hpayload, hpayload_nat⟩ := hsound.payloadLen_eq_ok (ε := CreateError)
    obtain ⟨len, hlen, hlen_nat⟩ := hsound.mappedLen_eq_ok (ε := CreateError)
    rw [Action.ofOutcome_ok_bind, hpayload, Action.ofOutcome_ok_bind]
    refine ((Region.allocate_tells p hsound hpayload_nat hlen_nat).mapError
      CreateError.hugePages).bind ?_ ?_
    · rintro _ region ⟨rfl, hfit, hheader, hmapped⟩
      refine ((furnish_tells p hsound hpayload_nat hlen_nat rfl hheader hmapped hfit).onFailure
        (region.release_tells p)).imp ?_ ?_
      · rintro _ pool ⟨entries, start, phys, hentered, hall, hstart, hmakes, rfl⟩
        exact .made g len region.mapping start entries phys pool hgeometry hlen hentered hall hstart
          hmakes
      · rintro _ fault ⟨_, ⟨told, entries, hfails, rfl⟩, rfl⟩
        rw [hmapped]
        exact .failed g len region.mapping told entries fault hgeometry hlen hfails
    · rintro _ _ ⟨_, ⟨cause, rfl, rfl⟩, rfl⟩
      exact .noPages g len cause hgeometry hlen

end Pool

/-- **All or nothing**: as long as the platform keeps its promises, making a pool has one of the
conversations of an attempt with it, and ends as the attempt does.  Hence it leaves a pool, or has
undone what it did. -/
theorem Context.create_all_or_nothing (context : Context σ) (config : Config) (s : σ)
    (hkept : ∀ e ∈ ((context.createPool config).run s).events, e.Kept) :
    ∃ story, ((context.createPool config).run s).Shows context.platform s story ∧
      Attempt context.mapper config story ((context.createPool config).run s).outcome := by
  obtain ⟨story, hshows, hmeets⟩ :=
    Pool.create_tells context.platform context.mapper config s hkept
  refine ⟨story, hshows, ?_⟩
  rcases hmeets.cases with ⟨pool, hout, hattempt⟩ | ⟨fault, hout, hattempt⟩
  · rw [Context.createPool, hout]
    exact hattempt
  · rw [Context.createPool, hout]
    exact hattempt

/-- The mapper refuses the second page of two: the first one is unmapped, and both are given
back. -/
theorem Context.create_all_or_nothing_refused :
    let script : Script := { mappers := [{ distance := 4096, refusedMaps := [2] }] }
    let context : Context ScriptState := ⟨script.platform, some 0⟩
    let t := (context.createPool ⟨"rx", {}, 1048576, 3, 64⟩).run script.start
    (∀ e ∈ t.events, e.Kept) ∧
      (∃ story, t.Shows script.platform script.start story ∧
        Attempt (some 0) ⟨"rx", {}, 1048576, 3, 64⟩ story t.outcome) ∧
      (callsOf t.events).map Event.line =
        ["backend.map 4194304 -> 4294967296",
          "resolve 4294967296 -> 4294967296",
          "bus.map 0.0 4294967296 2097152 -> 4294971392",
          "resolve 4297064448 -> 4297064448",
          "bus.map 0.0 4297064448 2097152 -> Err",
          "bus.unmap 0.0 4294971392 2097152 -> Ok",
          "backend.unmap 4294967296 4194304"] := by
  intro script context t
  have hkept : ∀ e ∈ t.events, e.Kept := by decide +kernel
  have hcalls : (callsOf t.events).map Event.line =
      ["backend.map 4194304 -> 4294967296",
        "resolve 4294967296 -> 4294967296",
        "bus.map 0.0 4294967296 2097152 -> 4294971392",
        "resolve 4297064448 -> 4297064448",
        "bus.map 0.0 4297064448 2097152 -> Err",
        "bus.unmap 0.0 4294971392 2097152 -> Ok",
        "backend.unmap 4294967296 4194304"] := by decide +kernel
  exact ⟨hkept, Context.create_all_or_nothing context _ _ hkept, hcalls⟩

end HugePool
