import HugePool.Context
import HugePool.Proofs.Geometry.Placement

/-!
# What a new pool is like

`Pool.Intact` says of a pool that its parts fit together: the geometry is sound, the region starts
at a multiple of the huge page and records the length of its huge pages, and the table has one
record for each of them, in order.  None of the operations on a pool changes any of that.

* `Pool.create_eq_ok`: a pool that was made is intact, has the geometry of its request, and all of
  its buffers are free, the first one on top.
* `Pool.Intact.exists_toBus?`: the device sees every buffer of an intact pool.

The region learns the number of its pages only from the length that it records.  That the length is
the one of the geometry (`Region.allocate_eq_ok`) is because both round the same sum up.
-/

namespace HugePool

/-- The parts of a pool fit together. -/
structure Pool.Intact (pool : Pool) : Prop where
  sound : pool.geometry.Sound
  aligned : hugePageSize.toNat ∣ pool.region.mapping.toNat
  recorded : pool.region.mappedLen.toNat = pool.geometry.hugePages.toNat * hugePageSize.toNat
  base : pool.baseVirtual.toNat = pool.region.mapping.toNat + pool.geometry.headerOffset.toNat
  pages : pool.hugePages.map (·.virt.toNat) =
    (List.range pool.geometry.hugePages.toNat).map
      fun k => pool.region.mapping.toNat + k * hugePageSize.toNat

/-! ### The region -/

theorem Config.compute_of_geometry {config : Config} {g : Geometry}
    (h : config.geometry = .ok g) :
    Geometry.compute config.bufferSize config.bufferCount config.alignment = .ok g := by
  rw [Config.geometry] at h
  split_ifs at h
  exact h

theorem Config.geometry_settled (config : Config) : config.geometry.Settled := by
  rw [Config.geometry]
  split_ifs
  · trivial
  · exact Geometry.compute_settled _ _ _

/-- A run of bytes has one length in whole huge pages. -/
theorem hugePages_unique {total a b : Nat} (ha : total ≤ a * 2097152)
    (ha' : a * 2097152 < total + 2097152) (hb : total ≤ b * 2097152)
    (hb' : b * 2097152 < total + 2097152) : a = b := by
  omega

/-- An address at no distance from the start of its huge page is a multiple of the huge page. -/
theorem Address.dvd_of_offsetIn_huge {space : Space} {a : Address space}
    (h : a.offsetIn .huge = 0) : hugePageSize.toNat ∣ a.toNat := by
  have hmod : (a.word &&& (hugePageSize - 1)).toNat = a.word.toNat % hugePageSize.toNat :=
    Geometry.isPowerOfTwo_hugePageSize.toNat_and_sub_one a.word
  have hzero : a.word &&& (hugePageSize - 1) = 0 := h
  rw [hzero] at hmod
  exact Nat.dvd_of_mod_eq_zero hmod.symm

/-- The device sees every address of a page. -/
theorem PageRecord.exists_toBus? (r : PageRecord) {va : VirtAddr} (h : va ∈ r.virtRange) :
    ∃ bus, r.toBus? va = some bus := by
  have hle : r.virt.toNat ≤ va.toNat := h.1
  have hlt : va.toNat < r.virt.toNat + hugePageSize.toNat := h.2
  have hfits := r.bus_fits
  have hbus : (UInt64.ofNat (va.toNat + r.bus.toNat - r.virt.toNat)).toNat
      = va.toNat + r.bus.toNat - r.virt.toNat := UInt64.toNat_ofNat_of_lt' (by omega)
  refine ⟨⟨UInt64.ofNat (va.toNat + r.bus.toNat - r.virt.toNat)⟩, ?_⟩
  refine PageRecord.toBus?_eq_some_iff.mpr ⟨h, ?_⟩
  show (UInt64.ofNat (va.toNat + r.bus.toNat - r.virt.toNat)).toNat + _ = _
  rw [hbus]
  omega

section

variable {σ : Type} {p : Platform σ} {s : σ}

theorem Region.pageCount_eq {region : Region} {pages : UInt64}
    (h : region.mappedLen.toNat = pages.toNat * hugePageSize.toNat) : region.pageCount = pages := by
  apply UInt64.toNat_inj.mp
  rw [Region.pageCount, UInt64.toNat_div, h, Nat.mul_div_cancel _ (by decide)]

/-- The region of a sound geometry records the length of its huge pages. -/
theorem Region.allocate_eq_ok {g : Geometry} (hg : g.Sound) {payload : UInt64}
    (hpayload : payload.toNat = g.bufferSize.toNat * g.bufferCount.toNat) {region : Region}
    (h : ((Region.allocate p payload g.headerOffset).run s).outcome = .ok region) :
    region.headerOffset = g.headerOffset ∧
    region.mappedLen.toNat = g.hugePages.toNat * hugePageSize.toNat ∧
    hugePageSize.toNat ∣ region.mapping.toNat := by
  obtain ⟨-, -, h⟩ := Action.run_bind_eq_ok_iff.mp h
  obtain ⟨len, hlen, h⟩ := Action.run_bind_eq_ok_iff.mp h
  obtain ⟨mapping, -, h⟩ := Action.run_bind_eq_ok_iff.mp h
  obtain ⟨_, haligned, h⟩ := Action.run_bind_eq_ok_iff.mp h
  obtain ⟨-, -, h⟩ := Action.run_bind_eq_ok_iff.mp h
  cases Outcome.ok.inj h
  -- the length is the sum rounded up to whole pages
  simp only [Action.run_ofOutcome, Region.lengthFor, Word.alignUp, Outcome.bind_eq_ok_iff,
    Outcome.ofOption_eq_ok_iff, Outcome.require_eq_ok_iff, Outcome.pure_eq,
    Outcome.ok.injEq] at hlen
  obtain ⟨total, htotal, _, ⟨_, -, rfl⟩, hlen⟩ := hlen
  obtain ⟨⟨c, hc⟩, hge, hlt⟩ :=
    (Word.alignUp?_eq_some_iff Geometry.isPowerOfTwo_hugePageSize).mp hlen
  rw [Word.add?_eq_some_iff.mp htotal, hpayload, hc, Nat.mul_comm hugePageSize.toNat,
    toNat_hugePageSize] at hge hlt
  have hwhole := hg.whole
  have htight := hg.tight
  rw [Nat.add_comm g.headerOffset.toNat] at hwhole htight
  have hcount : c = g.hugePages.toNat := hugePages_unique hge hlt hwhole htight
  refine ⟨rfl, ?_, Address.dvd_of_offsetIn_huge (Outcome.require_eq_ok_iff.mp haligned)⟩
  show ((Memory.zero.storeWord 0 len).word 0).toNat = _
  rw [Memory.word_storeWord, hc, hcount, Nat.mul_comm]

/-! ### The table -/

/-- What a record is made of: the place of the page, what the resolver answered about it, and where
the device sees that. -/
theorem PageTable.recordPage_parts {mapper : Option MapperId} {device : Device} {start : VirtAddr}
    {page : Nat} {record : PageRecord}
    (h : ((PageTable.recordPage p mapper device start page).run s).outcome = .ok record) :
    ((Word.mul (UInt64.ofNat page) hugePageSize).bind start.add : Outcome CreateError _)
        = .ok record.virt ∧
    ∃ phys s', ((p.resolve record.virt).run s).outcome = .ok phys ∧
      ((PageTable.busOf p mapper device phys : Action σ CreateError _).run s').outcome
        = .ok record.bus := by
  obtain ⟨virt, hvirt, h⟩ := Action.run_bind_eq_ok_iff.mp h
  obtain ⟨phys, hphys, h⟩ := Action.run_bind_eq_ok_iff.mp h
  obtain ⟨bus, hbus, h⟩ := Action.run_bind_eq_ok_iff.mp h
  have hresolve := Action.run_mapError_eq_ok_iff.mp hphys
  split at h
  · obtain ⟨-, -, h⟩ := Action.run_bind_eq_ok_iff.mp h
    split at h
    · cases Outcome.ok.inj h
      exact ⟨hvirt, phys, _, hresolve, hbus⟩
    · cases h
  · obtain ⟨-, -, h⟩ := Action.run_bind_eq_ok_iff.mp h
    cases h

/-- The record of a page is about that page. -/
theorem PageTable.recordPage_eq_ok {mapper : Option MapperId} {device : Device} {start : VirtAddr}
    {page : Nat} (hpage : page < UInt64.size) {record : PageRecord}
    (h : ((PageTable.recordPage p mapper device start page).run s).outcome = .ok record) :
    record.virt.toNat = start.toNat + page * hugePageSize.toNat := by
  obtain ⟨distance, hmul, hadd⟩ :=
    Outcome.bind_eq_ok_iff.mp (PageTable.recordPage_parts h).1
  rw [Address.add?_eq_some_iff.mp (Outcome.orPanic_eq_ok_iff.mp hadd),
    Word.mul?_eq_some_iff.mp (Outcome.orPanic_eq_ok_iff.mp hmul), UInt64.toNat_ofNat_of_lt' hpage]

/-- The pages that are entered follow one another, and the mapper stays. -/
theorem PageTable.extend_eq_ok {start : VirtAddr} (count : Nat) {t t' : PageTable}
    (hfit : t.records.length + count < UInt64.size)
    (h : ((PageTable.extend p start t count).run s).outcome = .ok t') :
    t'.mapper = t.mapper ∧ t'.device = t.device ∧
    t'.records.map (·.virt.toNat) = t.records.map (·.virt.toNat) ++
      (List.range' t.records.length count).map fun k => start.toNat + k * hugePageSize.toNat := by
  -- on the pages that are left, with the table and the platform that the pages before have left
  induction count generalizing t s with
  | zero =>
    cases Outcome.ok.inj h
    exact ⟨rfl, rfl, by simp⟩
  | succ count ih =>
    obtain ⟨record, hrecord, h⟩ := Action.run_bind_eq_ok_iff.mp h
    have hvirt := PageTable.recordPage_eq_ok (by omega)
      (Action.run_onFailure_eq_ok_iff.mp hrecord)
    obtain ⟨hmapper, hdevice, hrecords⟩ := ih (by simp; omega) h
    refine ⟨hmapper, hdevice, ?_⟩
    rw [hrecords, List.range'_succ]
    simp [hvirt]

theorem PageTable.build_eq_ok {mapper : Option MapperId} {device : Device} {start : VirtAddr}
    {pages : UInt64} {t : PageTable}
    (h : ((PageTable.build p mapper device start pages).run s).outcome = .ok t) :
    t.mapper = mapper ∧ t.device = device ∧
    t.records.map (·.virt.toNat) =
      (List.range pages.toNat).map fun k => start.toNat + k * hugePageSize.toNat := by
  obtain ⟨-, -, h⟩ := Action.run_bind_eq_ok_iff.mp h
  have hfit : ([] : List PageRecord).length + pages.toNat < UInt64.size := by
    rw [List.length_nil, Nat.zero_add]
    exact pages.toNat_lt_size
  have hrecords := PageTable.extend_eq_ok pages.toNat hfit h
  rwa [List.length_nil, ← List.range_eq_range', List.map_nil, List.nil_append] at hrecords

/-! ### The pool -/

namespace Pool

/-- What `assemble` puts together. -/
theorem assemble_eq_ok {config : Config} {g : Geometry} {payload : UInt64} {region : Region}
    {table : PageTable} {pool : Pool}
    (h : ((assemble p config g payload region table).run s).outcome = .ok pool) :
    pool.geometry = g ∧ pool.region = region ∧ pool.table = table ∧ pool.free.head = 0 ∧
    region.mapping.add? region.headerOffset = some pool.baseVirtual ∧
    (bufferAddrs pool.baseVirtual g.bufferSize #[] g.bufferCount.toNat
      : Outcome CreateError _) = .ok pool.free.slots ∧
    ((resolveBase p config.name pool.baseVirtual).run s).outcome = .ok pool.basePhysical := by
  obtain ⟨start, hstart, h⟩ := Action.run_bind_eq_ok_iff.mp h
  obtain ⟨phys, hphys, h⟩ := Action.run_bind_eq_ok_iff.mp h
  obtain ⟨-, -, h⟩ := Action.run_bind_eq_ok_iff.mp h
  obtain ⟨slots, hslots, h⟩ := Action.run_bind_eq_ok_iff.mp h
  obtain ⟨-, -, h⟩ := Action.run_bind_eq_ok_iff.mp h
  obtain ⟨buffers, hbuffers, h⟩ := Action.run_bind_eq_ok_iff.mp h
  cases Outcome.ok.inj h
  -- the base is read off the range of the buffers, which starts where the region does
  have hbase : buffers.start = start :=
    (Range.ofLength?_eq_some_iff.mp (Outcome.orPanic_eq_ok_iff.mp hbuffers)).1
  refine ⟨rfl, rfl, rfl, rfl, ?_, ?_, ?_⟩
  · rw [Outcome.orPanic_eq_ok_iff.mp hstart]
    exact congrArg some hbase.symm
  · show bufferAddrs buffers.start _ _ _ = _
    rw [hbase]
    exact hslots
  · show ((resolveBase p config.name buffers.start).run s).outcome = _
    rw [hbase]
    exact hphys

/-- A record can only be made of a page that ends at an address, so the last of them does. -/
theorem fits_of_records {records : List PageRecord} {start pages : Nat} (hpages : 0 < pages)
    (hrecords : records.map (·.virt.toNat) =
      (List.range pages).map fun k => start + k * hugePageSize.toNat) :
    start + pages * hugePageSize.toNat < UInt64.size := by
  have hlast : start + (pages - 1) * hugePageSize.toNat ∈ records.map (·.virt.toNat) := by
    rw [hrecords]
    exact List.mem_map.mpr ⟨_, List.mem_range.mpr (Nat.sub_one_lt_of_lt hpages), rfl⟩
  obtain ⟨record, -, hrecord⟩ := List.mem_map.mp hlast
  have hfits := record.virt_fits
  rw [hrecord, Nat.add_assoc, ← Nat.succ_mul, Nat.succ_eq_add_one,
    Nat.sub_add_cancel hpages] at hfits
  exact hfits

/-- The last huge page of a pool ends at an address, and so does the region. -/
theorem Intact.fits {pool : Pool} (h : pool.Intact) :
    pool.region.mapping.toNat + pool.geometry.hugePages.toNat * hugePageSize.toNat
      < UInt64.size :=
  fits_of_records h.sound.hugePages_pos h.pages

/-- **Creation**: a pool that was made is intact, has the geometry of its request, and has all its
buffers free. -/
theorem create_eq_ok {mapper : Option MapperId} {config : Config} {pool : Pool}
    (h : ((create p mapper config).run s).outcome = .ok pool) :
    pool.Intact ∧ config.geometry = .ok pool.geometry ∧ pool.table.mapper = mapper ∧
    pool.table.device = config.device ∧ pool.free.head = 0 ∧
    pool.free.slots.toList.map Address.toNat =
      (List.range pool.geometry.bufferCount.toNat).map
        (pool.geometry.bufferStart pool.region.mapping.toNat) := by
  obtain ⟨g, hgeometry, h⟩ := Action.run_bind_eq_ok_iff.mp h
  obtain ⟨payload, hpayload, h⟩ := Action.run_bind_eq_ok_iff.mp h
  obtain ⟨region, hregion, h⟩ := Action.run_bind_eq_ok_iff.mp h
  obtain ⟨table, htable, h⟩ := Action.run_bind_eq_ok_iff.mp (Action.run_onFailure_eq_ok_iff.mp h)
  have hsound : g.Sound :=
    (Geometry.compute_eq_ok (Config.compute_of_geometry hgeometry)).2.2.2
  have hpayload_nat : payload.toNat = g.bufferSize.toNat * g.bufferCount.toNat :=
    Word.mul?_eq_some_iff.mp (Outcome.orPanic_eq_ok_iff.mp hpayload)
  obtain ⟨hheader, hrecorded, haligned⟩ :=
    Region.allocate_eq_ok hsound hpayload_nat (Action.run_mapError_eq_ok_iff.mp hregion)
  obtain ⟨rfl, rfl, rfl, hhead, hbase, hslots, -⟩ :=
    assemble_eq_ok (Action.run_onFailure_eq_ok_iff.mp h)
  obtain ⟨hmapper, hdevice, hpages⟩ := PageTable.build_eq_ok htable
  have hcount : pool.region.pageCount.toNat = pool.geometry.hugePages.toNat :=
    congrArg UInt64.toNat (Region.pageCount_eq hrecorded)
  have hstart := Address.add?_eq_some_iff.mp hbase
  rw [hheader] at hstart hbase
  have hintact : pool.Intact := {
    sound := hsound
    aligned := haligned
    recorded := hrecorded
    base := hstart
    pages := hcount ▸ hpages }
  refine ⟨hintact, hgeometry, hmapper, hdevice, hhead, ?_⟩
  obtain ⟨start, slots, hstart', -, hslots', hlist⟩ :=
    bufferAddrs_of_sound (ε := CreateError) hsound hintact.fits
  have hsame : start = pool.baseVirtual :=
    Option.some.inj ((Outcome.orPanic_eq_ok_iff.mp hstart').symm.trans hbase)
  rw [hsame] at hslots'
  rw [Outcome.ok.inj (hslots.symm.trans hslots')]
  exact hlist

/-- The buffers of a pool that was made fill the range that it keeps for them. -/
theorem buffers_len_of_create {mapper : Option MapperId} {config : Config} {pool : Pool}
    (h : ((create p mapper config).run s).outcome = .ok pool) :
    pool.buffers.len.toNat =
      pool.geometry.bufferSize.toNat * pool.geometry.bufferCount.toNat := by
  obtain ⟨g, -, h⟩ := Action.run_bind_eq_ok_iff.mp h
  obtain ⟨payload, hpayload, h⟩ := Action.run_bind_eq_ok_iff.mp h
  obtain ⟨region, -, h⟩ := Action.run_bind_eq_ok_iff.mp h
  obtain ⟨table, -, h⟩ := Action.run_bind_eq_ok_iff.mp (Action.run_onFailure_eq_ok_iff.mp h)
  obtain ⟨start, -, h⟩ := Action.run_bind_eq_ok_iff.mp (Action.run_onFailure_eq_ok_iff.mp h)
  obtain ⟨phys, -, h⟩ := Action.run_bind_eq_ok_iff.mp h
  obtain ⟨-, -, h⟩ := Action.run_bind_eq_ok_iff.mp h
  obtain ⟨slots, -, h⟩ := Action.run_bind_eq_ok_iff.mp h
  obtain ⟨-, -, h⟩ := Action.run_bind_eq_ok_iff.mp h
  obtain ⟨buffers, hbuffers, h⟩ := Action.run_bind_eq_ok_iff.mp h
  cases Outcome.ok.inj h
  have hlen : buffers.len = payload :=
    (Range.ofLength?_eq_some_iff.mp (Outcome.orPanic_eq_ok_iff.mp hbuffers)).2
  rw [hlen]
  exact Word.mul?_eq_some_iff.mp (Outcome.orPanic_eq_ok_iff.mp hpayload)

/-- The device sees every buffer of an intact pool. -/
theorem Intact.exists_toBus? {pool : Pool} (h : pool.Intact) {va : VirtAddr} {i : Nat}
    (hi : i < pool.geometry.bufferCount.toNat)
    (hva : va.toNat = pool.geometry.bufferStart pool.region.mapping.toNat i) :
    ∃ bus, pool.toBus? va = some bus := by
  -- the buffer lies in page number `k`, so that at least the record of this page has the address
  obtain ⟨k, hk, hspan⟩ : ∃ k < pool.geometry.hugePages.toNat,
      pool.geometry.bufferSpan pool.region.mapping.toNat i
        ⊆ Geometry.pageSpan pool.region.mapping.toNat k := h.sound.exists_page hi
  have hpos := h.sound.stride_pos
  obtain ⟨hle, hlt⟩ := hspan (a := va.toNat) ⟨hva.ge, by omega⟩
  have hpage : pool.region.mapping.toNat + k * hugePageSize.toNat
      ∈ pool.hugePages.map (·.virt.toNat) := by
    rw [h.pages]
    exact List.mem_map.mpr ⟨k, List.mem_range.mpr hk, rfl⟩
  obtain ⟨record, hrecord, hvirt⟩ := List.mem_map.mp hpage
  have hmem : va ∈ record.virtRange := by
    rw [Nat.succ_mul] at hlt
    show record.virt.toNat ≤ va.toNat ∧ va.toNat < record.virt.toNat + hugePageSize.toNat
    omega
  apply Option.isSome_iff_exists.mp
  rw [toBus?, PageTable.toBus?, List.findSome?_isSome_iff]
  exact ⟨record, hrecord, Option.isSome_iff_exists.mpr (record.exists_toBus? hmem)⟩

end Pool

end

end HugePool
