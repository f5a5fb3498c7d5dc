import HugePool.Proofs.PageMap.Lookup
import HugePool.Proofs.Pool.Translation

/-!
# The table of a pool against fresh translations

A pool without a mapper translates the start of each of its huge pages once, when it is made
(`PageRecord.Answered`), and from then on adds the distance from the start.  A context translates
every address anew.  The two agree where the resolver finds a page in one piece
(`Platform.Contiguous`), because then a page is told by its start.

* `Pool.Intact.toBus?_of_contiguous`: the table is right about the addresses of such a page.
* `Platform.contiguous_of_le`: a page map whose pages are at least as long finds every huge page in
  one piece that it finds at all, because a huge page cannot reach from one of its pages into the
  next.
* `Platform.contiguous_iff_covers`: one with shorter pages finds a huge page in one piece if and
  only if the frames follow one another.
* `Pool.table_fresh`: all of this about a pool that was made.
-/

namespace HugePool

variable {σ : Type}

namespace Platform

/-- The resolver answers by a rule, at all times. -/
def Follows (p : Platform σ) (rule : VirtAddr → Except TranslateError PhysAddr) : Prop :=
  ∀ va s, (p.translate va s).1 = rule va

/-- The resolver finds the addresses of a huge page one after the other in memory, at all times. -/
def Contiguous (p : Platform σ) (start : VirtAddr) : Prop :=
  ∃ phys : PhysAddr, ∀ va : VirtAddr,
    va.toNat ∈ Set.Ico start.toNat (start.toNat + hugePageSize.toNat) →
    ∃ pa : PhysAddr, (∀ s, (p.translate va s).1 = .ok pa) ∧
      pa.toNat + start.toNat = phys.toNat + va.toNat

end Platform

/-! ### What a new table holds -/

/-- The page was translated when it was entered, and nothing came between the answer and the
device. -/
def PageRecord.Answered (r : PageRecord) (p : Platform σ) : Prop :=
  ∃ s phys, (p.translate r.virt s).1 = .ok phys ∧ r.bus = phys.toBus

section

variable {p : Platform σ} {s : σ}

theorem Platform.translate_of_resolve {va : VirtAddr} {phys : PhysAddr}
    (h : ((p.resolve va).run s).outcome = .ok phys) : (p.translate va s).1 = .ok phys := by
  have hresolve : ((p.resolve va).run s).outcome = .ofExcept (p.translate va s).1 := rfl
  rw [hresolve] at h
  exact Outcome.ofExcept_eq_ok_iff.mp h

theorem PageTable.recordPage_answered {device : Device} {start : VirtAddr} {page : Nat}
    {record : PageRecord}
    (h : ((PageTable.recordPage p none device start page).run s).outcome = .ok record) :
    record.Answered p := by
  obtain ⟨-, phys, s', hphys, hbus⟩ := PageTable.recordPage_parts h
  exact ⟨s, phys, Platform.translate_of_resolve hphys, (Outcome.ok.inj hbus).symm⟩

theorem PageTable.extend_answered {start : VirtAddr} (count : Nat) {t t' : PageTable}
    (hmapper : t.mapper = none) (hanswered : ∀ r ∈ t.records, r.Answered p)
    (h : ((PageTable.extend p start t count).run s).outcome = .ok t') :
    ∀ r ∈ t'.records, r.Answered p := by
  -- on the pages that are left, with the table and the platform that the pages before have left
  induction count generalizing t s with
  | zero =>
    cases Outcome.ok.inj h
    exact hanswered
  | succ count ih =>
    obtain ⟨record, hrecord, h⟩ := Action.run_bind_eq_ok_iff.mp h
    have hrecord := Action.run_onFailure_eq_ok_iff.mp hrecord
    rw [hmapper] at hrecord
    refine ih (t := { t with records := t.records ++ [record] }) hmapper ?_ h
    intro r hr
    rcases List.mem_append.mp hr with hr | hr
    · exact hanswered r hr
    · rw [List.mem_singleton.mp hr]
      exact PageTable.recordPage_answered hrecord

theorem PageTable.build_answered {device : Device} {start : VirtAddr} {pages : UInt64}
    {t : PageTable}
    (h : ((PageTable.build p none device start pages).run s).outcome = .ok t) :
    ∀ r ∈ t.records, r.Answered p := by
  obtain ⟨-, -, h⟩ := Action.run_bind_eq_ok_iff.mp h
  exact PageTable.extend_answered pages.toNat rfl (fun r hr => absurd hr List.not_mem_nil) h

namespace Pool

theorem translate_of_resolveBase {name : String} {start : VirtAddr} {phys : PhysAddr}
    (h : ((resolveBase p name start).run s).outcome = .ok phys) :
    (p.translate start s).1 = .ok phys := by
  apply Platform.translate_of_resolve
  change (resolveBase p name start s).outcome = .ok phys at h
  rw [resolveBase] at h
  cases hresolve : ((p.resolve start).run s).outcome with
  | ok value => simpa [hresolve, Outcome.mapError] using h
  | error cause => simp [hresolve] at h
  | panic cause => simp [hresolve, Outcome.mapError] at h
  | abort => simp [hresolve, Outcome.mapError] at h

/-- The pages of a new pool without a mapper are at their physical addresses, and so is its base. -/
theorem create_answered {config : Config} {pool : Pool}
    (h : ((create p none config).run s).outcome = .ok pool) :
    (∀ r ∈ pool.hugePages, r.Answered p) ∧
      ∃ s', (p.translate pool.baseVirtual s').1 = .ok pool.basePhysical := by
  obtain ⟨g, -, h⟩ := Action.run_bind_eq_ok_iff.mp h
  obtain ⟨payload, -, h⟩ := Action.run_bind_eq_ok_iff.mp h
  obtain ⟨region, -, h⟩ := Action.run_bind_eq_ok_iff.mp h
  obtain ⟨table, htable, h⟩ := Action.run_bind_eq_ok_iff.mp (Action.run_onFailure_eq_ok_iff.mp h)
  obtain ⟨-, -, rfl, -, -, -, hbase⟩ := assemble_eq_ok (Action.run_onFailure_eq_ok_iff.mp h)
  exact ⟨PageTable.build_answered htable, _, translate_of_resolveBase hbase⟩

end Pool

end

/-! ### Fresh translations -/

namespace Pool.Intact

variable {p : Platform σ} {pool : Pool} (h : pool.Intact)

include h

/-- Where a page lies in one piece, the table is right about all of its addresses. -/
theorem toBus?_of_contiguous {r : PageRecord} (hr : r ∈ pool.hugePages) (hanswered : r.Answered p)
    (hcontiguous : p.Contiguous r.virt) {va : VirtAddr} (hva : va.toNat ∈ r.virtSpan) :
    ∃ pa, (∀ s, (p.translate va s).1 = .ok pa) ∧ pool.toBus? va = some pa.toBus := by
  obtain ⟨phys, hphys⟩ := hcontiguous
  obtain ⟨s, first, htranslate, hbus⟩ := hanswered
  have hpos : 0 < hugePageSize.toNat := by decide
  -- the page starts where the answer was
  obtain ⟨start, hstart, hsum⟩ := hphys r.virt ⟨Nat.le_refl _, by omega⟩
  have hfirst : first = start := Except.ok.inj (htranslate.symm.trans (hstart s))
  have hnat : r.bus.toNat = phys.toNat := by
    rw [hbus, hfirst]
    exact Nat.add_right_cancel hsum
  obtain ⟨pa, hpa, hshift⟩ := hphys va hva
  refine ⟨pa, hpa, h.toBus?_eq_some_iff.mpr ⟨r, hr, PageRecord.toBus?_eq_some_iff.mpr ⟨hva, ?_⟩⟩⟩
  rw [hnat, Nat.add_comm va.toNat]
  exact hshift

theorem exists_page_baseVirtual : ∃ r ∈ pool.hugePages, pool.baseVirtual.toNat ∈ r.virtSpan := by
  have hstart : pool.baseVirtual.toNat
      = pool.geometry.bufferStart pool.region.mapping.toNat 0 := by
    rw [h.base, Geometry.bufferStart, Nat.zero_mul, Nat.add_zero]
  obtain ⟨bus, hbus⟩ := h.exists_toBus? h.sound.count_pos hstart
  exact h.exists_page_iff.mpr (h.toBus?_isSome_iff.mp (Option.isSome_iff_exists.mpr ⟨bus, hbus⟩))

end Pool.Intact

/-! ### Resolvers that find pages in one piece -/

/-- A part of a page, at a multiple of its length, does not reach the next page. -/
theorem div_mod_of_part {part page start v : Nat} (hdvd : part ∣ page) (hstart : part ∣ start)
    (hpos : 0 < page) (hle : start ≤ v) (hlt : v < start + part) :
    v / page = start / page ∧ v % page = start % page + (v - start) := by
  have hsplit := Nat.mod_add_div start page
  have hnext := Geometry.add_le_next_multiple hdvd hstart hpos
  rw [Nat.succ_mul, Nat.mul_comm (start / page)] at hnext
  exact (Nat.div_mod_unique hpos).mpr ⟨by omega, by omega⟩

/-- From the start of a page on, pages are counted by the distance. -/
theorem div_mod_of_dvd {page start : Nat} (hstart : page ∣ start) (hpos : 0 < page) (d : Nat) :
    (start + d) / page = start / page + d / page ∧ (start + d) % page = d % page := by
  obtain ⟨c, rfl⟩ := hstart
  rw [Nat.mul_add_div hpos, Nat.mul_div_cancel_left c hpos, Nat.mul_add_mod]
  exact ⟨rfl, rfl⟩

/-- The base pages of a huge page are backed by frames that follow one another. -/
def PageMap.Covers (m : PageMap) (start : VirtAddr) : Prop :=
  ∃ first, ∀ k < hugePageSize.toNat / m.pageSize.toNat, m.Backs (m.pageOf start + k) (first + k)

namespace Platform

variable {p : Platform σ} {start : VirtAddr}

theorem contiguous_of_identity (h : p.Follows (Script.follow .identity)) : p.Contiguous start :=
  ⟨⟨start.word⟩, fun va _ => ⟨⟨va.word⟩, h va, Nat.add_comm va.toNat start.toNat⟩⟩

variable {m : PageMap} (hfollows : p.Follows m.lookup)

include hfollows

theorem translate_eq_ok_iff {va : VirtAddr} {s : σ} {pa : PhysAddr} :
    (p.translate va s).1 = .ok pa ↔ ∃ frame, m.Backs (m.pageOf va) frame ∧
      pa.toNat = frame * m.pageSize.toNat + va.toNat % m.pageSize.toNat := by
  rw [hfollows, ← PageMap.translate_eq_ok_iff, ← m.ofExcept_lookup, Outcome.ofExcept_eq_ok_iff]

/-- A huge page that is a part of one page of the map lies in one frame. -/
theorem contiguous_of_le (hlarge : hugePageSize.toNat ≤ m.pageSize.toNat)
    (hstart : hugePageSize.toNat ∣ start.toNat)
    (hok : ∃ s pa, (p.translate start s).1 = .ok pa) : p.Contiguous start := by
  obtain ⟨s, phys, hphys⟩ := hok
  obtain ⟨frame, hbacks, hnat⟩ := (translate_eq_ok_iff hfollows).mp hphys
  have hdvd := Geometry.isPowerOfTwo_hugePageSize.dvd_of_le m.pageSize_pow hlarge
  refine ⟨phys, fun va ⟨hle, hlt⟩ => ?_⟩
  obtain ⟨hpage, hoffset⟩ := div_mod_of_part hdvd hstart m.pageSize_pow.pos hle hlt
  have hbacks' : m.Backs (m.pageOf va) frame := by
    rw [PageMap.pageOf, hpage]
    exact hbacks
  obtain ⟨pa, htranslate, hpa⟩ := hbacks'.exists_translate
  refine ⟨pa, fun s => (translate_eq_ok_iff hfollows).mpr ⟨frame, hbacks', hpa⟩, ?_⟩
  omega

section

variable (hsmall : m.pageSize.toNat ≤ hugePageSize.toNat)
  (hstart : hugePageSize.toNat ∣ start.toNat)

include hsmall hstart

/-- The frame of each page of the map is told by where its start lies. -/
theorem Contiguous.covers (s : σ) (hfits : start.toNat + hugePageSize.toNat < UInt64.size)
    (h : p.Contiguous start) : m.Covers start := by
  obtain ⟨phys, hphys⟩ := h
  have hdvd := m.pageSize_pow.dvd_of_le Geometry.isPowerOfTwo_hugePageSize hsmall
  have hpos := m.pageSize_pow.pos
  have hcount := Nat.div_mul_cancel hdvd
  have hframe : ∀ k < hugePageSize.toNat / m.pageSize.toNat, ∃ frame,
      m.Backs (m.pageOf start + k) frame ∧
      frame * m.pageSize.toNat = phys.toNat + k * m.pageSize.toNat := by
    intro k hk
    have hlt := Nat.mul_lt_mul_of_pos_right hk hpos
    have hva : (⟨UInt64.ofNat (start.toNat + k * m.pageSize.toNat)⟩ : VirtAddr).toNat
        = start.toNat + k * m.pageSize.toNat := UInt64.toNat_ofNat_of_lt' (by omega)
    obtain ⟨pa, hpa, hshift⟩ := hphys _ ⟨by rw [hva]; omega, by rw [hva]; omega⟩
    obtain ⟨frame, hbacks, hnat⟩ := (translate_eq_ok_iff hfollows).mp (hpa s)
    obtain ⟨hdiv, hmod⟩ := div_mod_of_dvd (hdvd.trans hstart) hpos (k * m.pageSize.toNat)
    rw [PageMap.pageOf, hva, hdiv, Nat.mul_div_cancel k hpos] at hbacks
    rw [hva, hmod, Nat.mul_mod_left] at hnat
    exact ⟨frame, hbacks, by omega⟩
  obtain ⟨first, -, hfirst⟩ := hframe 0 (Nat.div_pos hsmall hpos)
  refine ⟨first, fun k hk => ?_⟩
  obtain ⟨frame, hbacks, hnat⟩ := hframe k hk
  -- `k` pages on in memory is `k` frames on
  have hframe_eq : frame = first + k := by
    apply Nat.eq_of_mul_eq_mul_right hpos
    rw [Nat.add_mul]
    omega
  exact hframe_eq ▸ hbacks

theorem contiguous_of_covers (h : m.Covers start) : p.Contiguous start := by
  obtain ⟨first, hcovers⟩ := h
  have hdvd := m.pageSize_pow.dvd_of_le Geometry.isPowerOfTwo_hugePageSize hsmall
  have hpos := m.pageSize_pow.pos
  have hcount := Nat.div_mul_cancel hdvd
  have hphys : (⟨UInt64.ofNat (first * m.pageSize.toNat)⟩ : PhysAddr).toNat
      = first * m.pageSize.toNat :=
    UInt64.toNat_ofNat_of_lt' (hcovers 0 (Nat.div_pos hsmall hpos)).fits
  refine ⟨⟨UInt64.ofNat (first * m.pageSize.toNat)⟩, fun va ⟨hle, hlt⟩ => ?_⟩
  obtain ⟨d, hd⟩ := Nat.exists_eq_add_of_le hle
  obtain ⟨hdiv, hmod⟩ := div_mod_of_dvd (hdvd.trans hstart) hpos d
  have hk : d / m.pageSize.toNat < hugePageSize.toNat / m.pageSize.toNat :=
    Nat.div_lt_of_lt_mul (by rw [Nat.mul_comm]; omega)
  have hbacks : m.Backs (m.pageOf va) (first + d / m.pageSize.toNat) := by
    rw [PageMap.pageOf, hd, hdiv]
    exact hcovers _ hk
  obtain ⟨pa, -, hpa⟩ := hbacks.exists_translate
  refine ⟨pa, fun s => (translate_eq_ok_iff hfollows).mpr ⟨_, hbacks, hpa⟩, ?_⟩
  have hsplit := Nat.div_add_mod' d m.pageSize.toNat
  rw [hpa, hphys, hd, hmod, Nat.add_mul]
  omega

/-- A huge page that is made of pages of the map lies in one piece if and only if their frames
follow one another. -/
theorem contiguous_iff_covers (s : σ) (hfits : start.toNat + hugePageSize.toNat < UInt64.size) :
    p.Contiguous start ↔ m.Covers start :=
  ⟨Contiguous.covers hfollows hsmall hstart s hfits, contiguous_of_covers hfollows hsmall hstart⟩

end

end Platform

/-- **Freshness**: the table of a pool that was made without a mapper agrees with what its context
answers about any address of the pool's pages, then and later, if the resolver finds each page in
one piece; the bus addresses that the context answers are meant to be the physical ones
(`Platform.BusIsPhysical`).  The base is where the table has it, also when the header fills the
first pages.  Taking addresses as they are finds every page in one piece, and so does a page map of
pages that are as long as a huge page or longer; one of shorter pages does if and only if the frames
of each huge page follow one another. -/
theorem Pool.table_fresh {platform : Platform σ} {config : Config} {s : σ} {pool : Pool}
    (hcreate : ((Context.createPool ⟨platform, none⟩ config).run s).outcome = .ok pool) :
    ((∀ r ∈ pool.hugePages, platform.Contiguous r.virt) →
      (∀ r ∈ pool.hugePages, ∀ va : VirtAddr, va.toNat ∈ r.virtSpan →
        ∃ bus, pool.toBus? va = some bus ∧ (platform.BusIsPhysical →
          ∀ mapper s', ((Context.toBus ⟨platform, mapper⟩ va).run s').outcome = .ok bus)) ∧
      ∃ bus, pool.toBus? pool.baseVirtual = some bus ∧ bus.toNat = pool.basePhysical.toNat) ∧
    (platform.Follows (Script.follow .identity) →
      ∀ r ∈ pool.hugePages, platform.Contiguous r.virt) ∧
    ∀ m : PageMap, platform.Follows m.lookup →
      (hugePageSize.toNat ≤ m.pageSize.toNat →
        ∀ r ∈ pool.hugePages, platform.Contiguous r.virt) ∧
      (m.pageSize.toNat < hugePageSize.toNat →
        ((∀ r ∈ pool.hugePages, platform.Contiguous r.virt) ↔
          ∀ r ∈ pool.hugePages, m.Covers r.virt)) := by
  have hintact := (Pool.create_eq_ok hcreate).1
  obtain ⟨hanswered, s₀, hbase⟩ := Pool.create_answered hcreate
  refine ⟨fun hcontiguous => ⟨fun r hr va hva => ?_, ?_⟩, fun hidentity r _ => ?_,
    fun m hfollows => ⟨fun hlarge r hr => ?_, fun hsmall => forall₂_congr fun r hr => ?_⟩⟩
  · obtain ⟨pa, hpa, hbus⟩ :=
      hintact.toBus?_of_contiguous hr (hanswered r hr) (hcontiguous r hr) hva
    refine ⟨pa.toBus, hbus, fun hphysical mapper s' => ?_⟩
    rw [Context.outcome_toBus _ hphysical, hpa s']
    rfl
  · obtain ⟨r, hr, hva⟩ := hintact.exists_page_baseVirtual
    obtain ⟨pa, hpa, hbus⟩ :=
      hintact.toBus?_of_contiguous hr (hanswered r hr) (hcontiguous r hr) hva
    have hsame : pa = pool.basePhysical := Except.ok.inj ((hpa s₀).symm.trans hbase)
    exact ⟨pa.toBus, hbus, congrArg Address.toNat hsame⟩
  · exact Platform.contiguous_of_identity hidentity
  · obtain ⟨s', phys, hphys, -⟩ := hanswered r hr
    exact Platform.contiguous_of_le hfollows hlarge (hintact.dvd_virt hr) ⟨s', phys, hphys⟩
  · exact Platform.contiguous_iff_covers hfollows hsmall.le (hintact.dvd_virt hr) s r.virt_fits

/-- A page map of huge pages: the two that start at `2 ^ 32` are in frames 5 and 3. -/
def PageMap.scattered : PageMap where
  path := "pagemap"
  file := .regular
    ((Memory.zero.storeWord 16384 0x8000000000000005).storeWord 16392 0x8000000000000003) 16400
  pageSize := 2097152
  pageSize_pow := by decide

/-- A header that fills the first of two pages puts the base into the second one, which lies before
the first in memory. -/
theorem Pool.table_fresh_second_page :
    ∃ pool, ((Context.createPool
        ⟨Script.platform { resolver := { rule := .pageMap PageMap.scattered } }, none⟩
        ⟨"rx", {}, 2097152, 1, 64⟩).run
          (Script.start { resolver := { rule := .pageMap PageMap.scattered } })).outcome
            = .ok pool ∧
      pool.hugePages.map (·.bus.toNat) = [5 * 2097152, 3 * 2097152] ∧
      ∃ bus, pool.toBus? pool.baseVirtual = some bus ∧ bus.toNat = 3 * 2097152 ∧
        ((Context.toBus
          ⟨Script.platform { resolver := { rule := .pageMap PageMap.scattered } }, none⟩
          pool.baseVirtual).run
            (Script.start { resolver := { rule := .pageMap PageMap.scattered } })).outcome
              = .ok bus := by
  obtain ⟨pool, hcreate, hbuses, hphysical⟩ : ∃ pool,
      ((Context.createPool
        ⟨Script.platform { resolver := { rule := .pageMap PageMap.scattered } }, none⟩
        ⟨"rx", {}, 2097152, 1, 64⟩).run
          (Script.start { resolver := { rule := .pageMap PageMap.scattered } })).outcome
            = .ok pool ∧
      pool.hugePages.map (·.bus.toNat) = [5 * 2097152, 3 * 2097152] ∧
      pool.basePhysical.toNat = 3 * 2097152 := ⟨_, rfl, rfl, rfl⟩
  obtain ⟨hfresh, -, hmaps⟩ := Pool.table_fresh hcreate
  have hcontiguous := (hmaps PageMap.scattered fun va s => rfl).1 (by decide)
  obtain ⟨hagree, bus, hbus, hnat⟩ := hfresh hcontiguous
  obtain ⟨r, hr, hva⟩ := (Pool.create_eq_ok hcreate).1.exists_page_baseVirtual
  obtain ⟨bus', hbus', htoBus⟩ := hagree r hr _ hva
  obtain rfl := Option.some.inj (hbus.symm.trans hbus')
  exact ⟨pool, hcreate, hbuses, bus, hbus, hnat.trans hphysical,
    htoBus (Platform.busIsPhysical_of_none rfl) none _⟩

end HugePool
