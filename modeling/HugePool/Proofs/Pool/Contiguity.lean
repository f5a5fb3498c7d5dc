import HugePool.Proofs.Pool.Custody
import HugePool.Proofs.Pool.Translation

/-!
# Buffers as the device sees them

A mapper may put the pages of a pool anywhere on the bus and in any order.  Each buffer still is one
run of bus addresses, because it lies in one page, and within a page the bus addresses are the
virtual ones moved by a constant (`Pool.Intact.exists_home`).  The rest follows from that: a buffer
is as aligned on the bus as its page is (`Pool.Intact.alignment_dvd_bus`), and buffers that overlap
on the bus lie in pages that do (`Pool.Intact.busSpan_disjoint`).

`Custody.exists_buffer_of_allocate` ties this to what clients are handed out.
-/

namespace HugePool

namespace Pool

/-- Buffer number `i` starts at `va`, and the device sees it at `bus`. -/
structure SeesBuffer (pool : Pool) (i : Nat) (va : VirtAddr) (bus : BusAddr) : Prop where
  start : va.toNat = pool.baseVirtual.toNat + i * pool.geometry.bufferSize.toNat
  seen : pool.toBus? va = some bus

namespace Intact

variable {pool : Pool} (h : pool.Intact) {i : Nat} (hi : i < pool.geometry.bufferCount.toNat)

include h

theorem bufferStart_eq (i : Nat) : pool.geometry.bufferStart pool.region.mapping.toNat i
    = pool.baseVirtual.toNat + i * pool.geometry.bufferSize.toNat := by
  rw [Geometry.bufferStart, ← h.base]

theorem alignment_dvd_virt {r : PageRecord} (hr : r ∈ pool.hugePages) :
    pool.geometry.alignment.toNat ∣ r.virt.toNat :=
  h.sound.alignment_dvd_page.trans (h.dvd_virt hr)

include hi

theorem exists_seesBuffer : ∃ va bus, pool.SeesBuffer i va bus := by
  have hend : pool.geometry.bufferStart pool.region.mapping.toNat i
      + pool.geometry.bufferSize.toNat ≤ _ := h.sound.bufferStart_add_le hi
  have hfits := h.fits
  let va : VirtAddr :=
    ⟨UInt64.ofNat (pool.geometry.bufferStart pool.region.mapping.toNat i)⟩
  have hva : va.toNat = pool.geometry.bufferStart pool.region.mapping.toNat i :=
    UInt64.toNat_ofNat_of_lt' (by omega)
  obtain ⟨bus, hbus⟩ := h.exists_toBus? hi hva
  exact ⟨va, bus, hva.trans (h.bufferStart_eq i), hbus⟩

variable {va : VirtAddr} {bus : BusAddr} (hseen : pool.SeesBuffer i va bus)

include hseen

/-- All of a buffer lies in the page that has its start, which the device sees moved by a
constant. -/
theorem exists_home : ∃ r ∈ pool.hugePages, bus.toNat + r.virt.toNat = va.toNat + r.bus.toNat ∧
    r.virt.toNat ≤ va.toNat ∧
    va.toNat + pool.geometry.bufferSize.toNat ≤ r.virt.toNat + hugePageSize.toNat := by
  obtain ⟨k, hk, hspan⟩ : ∃ k < pool.geometry.hugePages.toNat,
      pool.geometry.bufferSpan pool.region.mapping.toNat i
        ⊆ Geometry.pageSpan pool.region.mapping.toNat k := h.sound.exists_page hi
  obtain ⟨r, hr, hvirt⟩ := h.exists_virt_iff.mpr ⟨k, hk, rfl⟩
  have hpos := h.sound.stride_pos
  rw [Geometry.bufferSpan, Geometry.pageSpan, h.bufferStart_eq, ← hseen.start, Nat.succ_mul,
    ← Nat.add_assoc, ← hvirt] at hspan
  obtain ⟨hle, hend⟩ := (Set.Ico_subset_Ico_iff (by omega)).mp hspan
  -- no other page has the start of the buffer
  obtain ⟨r', hr', hbus⟩ := h.toBus?_eq_some_iff.mp hseen.seen
  have hplace : va.toNat ∈ r.virtSpan := ⟨hle, by omega⟩
  have hsame : r' = r := eq_of_mem_spans h.virtSpan_disjoint hr' hr
    (PageRecord.mem_spans_of_toBus? hbus).1 hplace
  rw [hsame] at hbus
  exact ⟨r, hr, (PageRecord.toBus?_eq_some_iff.mp hbus).2, hle, hend⟩

/-- The bytes of a buffer follow one another on the bus as they do in memory. -/
theorem exists_toBus?_add {d : UInt64} (hd : d < pool.geometry.bufferSize) :
    ∃ va' bus', va.add? d = some va' ∧ bus.add? d = some bus' ∧ pool.toBus? va' = some bus' := by
  obtain ⟨r, hr, hshift, hle, hend⟩ := h.exists_home hi hseen
  have hlt : d.toNat < pool.geometry.bufferSize.toNat := UInt64.lt_iff_toNat_lt.mp hd
  have hvirt := r.virt_fits
  have hbus := r.bus_fits
  have hva' : (UInt64.ofNat (va.toNat + d.toNat)).toNat = va.toNat + d.toNat :=
    UInt64.toNat_ofNat_of_lt' (by omega)
  have hbus' : (UInt64.ofNat (bus.toNat + d.toNat)).toNat = bus.toNat + d.toNat :=
    UInt64.toNat_ofNat_of_lt' (by omega)
  refine ⟨⟨UInt64.ofNat (va.toNat + d.toNat)⟩, ⟨UInt64.ofNat (bus.toNat + d.toNat)⟩,
    Address.add?_eq_some_iff.mpr hva', Address.add?_eq_some_iff.mpr hbus',
    h.toBus?_eq_some_iff.mpr ⟨r, hr, PageRecord.toBus?_eq_some_iff.mpr ⟨⟨?_, ?_⟩, ?_⟩⟩⟩
  · exact (Nat.le_add_right_of_le hle).trans hva'.ge
  · exact hva'.trans_lt (by show _ < r.virt.toNat + hugePageSize.toNat; omega)
  · show (UInt64.ofNat _).toNat + _ = (UInt64.ofNat _).toNat + _
    omega

theorem alignment_dvd_bus
    (hbuses : ∀ r ∈ pool.hugePages, pool.geometry.alignment.toNat ∣ r.bus.toNat) :
    pool.geometry.alignment.toNat ∣ bus.toNat := by
  obtain ⟨r, hr, hshift, -⟩ := h.exists_home hi hseen
  have hstart : pool.geometry.alignment.toNat ∣ va.toNat := by
    rw [hseen.start, ← h.bufferStart_eq]
    exact (h.sound.placed h.aligned hi).aligned
  refine (Nat.dvd_add_left (h.alignment_dvd_virt hr)).mp ?_
  rw [hshift]
  exact Nat.dvd_add hstart (hbuses r hr)

/-- Pages without overlaps on the bus have buffers without overlaps there. -/
theorem busSpan_disjoint
    (hbuses : pool.hugePages.Pairwise fun r r' => Disjoint r.busSpan r'.busSpan) {j : Nat}
    (hj : j < pool.geometry.bufferCount.toNat) (hne : i ≠ j) {va' : VirtAddr} {bus' : BusAddr}
    (hseen' : pool.SeesBuffer j va' bus') :
    Disjoint (Set.Ico bus.toNat (bus.toNat + pool.geometry.bufferSize.toNat))
      (Set.Ico bus'.toNat (bus'.toNat + pool.geometry.bufferSize.toNat)) := by
  obtain ⟨r, hr, hshift, hle, hend⟩ := h.exists_home hi hseen
  obtain ⟨r', hr', hshift', hle', hend'⟩ := h.exists_home hj hseen'
  refine Set.disjoint_left.mpr fun place hplace hplace' => ?_
  simp only [Set.mem_Ico] at hplace hplace'
  have hmem : place ∈ r.busSpan := ⟨by omega, by omega⟩
  have hmem' : place ∈ r'.busSpan := ⟨by omega, by omega⟩
  have hsame : r = r' := eq_of_mem_spans hbuses hr hr' hmem hmem'
  subst hsame
  -- in one page, an overlap on the bus is one in memory
  have hapart := pool.geometry.bufferSpan_disjoint pool.region.mapping.toNat hne
  rw [Geometry.bufferSpan, Geometry.bufferSpan, h.bufferStart_eq, h.bufferStart_eq, ← hseen.start,
    ← hseen'.start] at hapart
  have hvirt : place + r.virt.toNat - r.bus.toNat
      ∈ Set.Ico va.toNat (va.toNat + pool.geometry.bufferSize.toNat) := ⟨by omega, by omega⟩
  exact Set.disjoint_left.mp hapart hvirt ⟨by omega, by omega⟩

end Intact

theorem allocate_eq_ok {pool : Pool} {buffer : Buffer}
    (h : (allocate.run pool).outcome = .ok buffer) :
    (∃ rest, pool.free.pop = .ok (buffer.virt, rest)) ∧ pool.toBus? buffer.virt = some buffer.bus ∧
      buffer.size = pool.geometry.bufferSize := by
  have hrun : allocate.run pool = allocate pool := rfl
  rw [hrun, allocate] at h
  rcases hpop : pool.free.pop with cause | ⟨virt, rest⟩
  · rw [hpop] at h
    cases h
  · rw [hpop] at h
    cases hbus : pool.toBus? virt with
    | none =>
      simp only [hbus] at h
      cases h
    | some bus =>
      simp only [hbus] at h
      cases h
      exact ⟨⟨rest, rfl⟩, hbus, rfl⟩

end Pool

/-- Whatever clients did before, the next one is handed out one of the buffers, with the address at
which the device sees it. -/
theorem Custody.exists_buffer_of_allocate {κ σ : Type} {p : Platform σ} {mapper : Option MapperId}
    {config : Config} {s : σ} {pool : Pool}
    (hcreate : ((Pool.create p mapper config).run s).outcome = .ok pool) (calls : List (Call κ))
    (honest : (⟨pool, []⟩ : Custody κ).Honest calls) {buffer : Buffer}
    (hbuffer : (Pool.allocate.run ((⟨pool, []⟩ : Custody κ).afterAll calls).pool).outcome
      = .ok buffer) :
    (∃ i < config.bufferCount.toNat, pool.SeesBuffer i buffer.virt buffer.bus) ∧
      buffer.size = pool.geometry.bufferSize := by
  obtain ⟨-, -, -, -, hhead, -⟩ := Pool.create_eq_ok hcreate
  have hkept := (Kept.new hhead).afterAll (visible_of_create hcreate) calls honest
  obtain ⟨⟨rest, hpop⟩, hbus, hsize⟩ := Pool.allocate_eq_ok hbuffer
  rw [hkept.toBus?_eq] at hbus
  rw [hkept.geometry_eq] at hsize
  have hfree : buffer.virt ∈ ((⟨pool, []⟩ : Custody κ).afterAll calls).pool.free.toList := by
    rw [FreeStack.toList_pop hpop]
    exact List.mem_cons_self
  have hslot := List.mem_map_of_mem (f := Address.toNat)
    (hkept.perm.mem_iff.mp (List.mem_append_left _ hfree))
  rw [slots_of_create hcreate] at hslot
  obtain ⟨i, hi, hstart⟩ := List.mem_map.mp hslot
  exact ⟨⟨i, List.mem_range.mp hi, hstart.symm, hbus⟩, hsize⟩

/-- **Contiguity**: wherever a mapper put the pages of a pool, the device sees each buffer as one
run of bus addresses, at the alignment of the pages, and apart from the other buffers if the pages
are apart.  The run is what a client is handed out. -/
theorem Pool.buffers_contiguous {κ σ : Type} {context : Context σ} {config : Config} {s : σ}
    {pool : Pool} (hcreate : ((context.createPool config).run s).outcome = .ok pool) :
    let n := config.bufferCount.toNat
    let size := pool.geometry.bufferSize
    (∀ i < n, ∃ va bus, pool.SeesBuffer i va bus) ∧
    (∀ i < n, ∀ va bus, pool.SeesBuffer i va bus →
      (∀ d < size, ∃ va' bus', va.add? d = some va' ∧ bus.add? d = some bus' ∧
        pool.toBus? va' = some bus') ∧
      ((∀ r ∈ pool.hugePages, config.alignment.toNat ∣ r.bus.toNat) →
        config.alignment.toNat ∣ bus.toNat)) ∧
    ((pool.hugePages.Pairwise fun r r' => Disjoint r.busSpan r'.busSpan) →
      ∀ i < n, ∀ j < n, i ≠ j → ∀ va bus va' bus', pool.SeesBuffer i va bus →
        pool.SeesBuffer j va' bus' →
        Disjoint (Set.Ico bus.toNat (bus.toNat + size.toNat))
          (Set.Ico bus'.toNat (bus'.toNat + size.toNat))) ∧
    ∀ calls : List (Call κ), (⟨pool, []⟩ : Custody κ).Honest calls → ∀ buffer,
      (Pool.allocate.run ((⟨pool, []⟩ : Custody κ).afterAll calls).pool).outcome = .ok buffer →
        (∃ i < n, pool.SeesBuffer i buffer.virt buffer.bus) ∧ buffer.size = size := by
  intro n size
  obtain ⟨hintact, hgeometry, -⟩ := Pool.create_eq_ok hcreate
  obtain ⟨hcount, halignment, -⟩ :=
    Geometry.compute_eq_ok (Config.compute_of_geometry hgeometry)
  have hn : n = pool.geometry.bufferCount.toNat := congrArg UInt64.toNat hcount.symm
  rw [hn, ← halignment]
  refine ⟨fun i hi => hintact.exists_seesBuffer hi, fun i hi va bus hseen => ⟨fun d hd => ?_, ?_⟩,
    fun hbuses i hi j hj hne va bus va' bus' hseen hseen' => ?_,
    fun calls honest buffer hbuffer => ?_⟩
  · exact hintact.exists_toBus?_add hi hseen hd
  · exact hintact.alignment_dvd_bus hi hseen
  · exact hintact.busSpan_disjoint hi hseen hbuses hj hne hseen'
  · rw [← hn]
    exact Custody.exists_buffer_of_allocate hcreate calls honest hbuffer

/-- Two buffers of 1 MiB, one in each of two pages that the mapper put in opposite order. -/
theorem Pool.buffers_contiguous_reversed :
    ∃ pool, ((Context.createPool ⟨Script.platform { mappers := [{ answers := [4194304, 0] }] },
        some 0⟩ ⟨"rx", {}, 1048576, 2, 64⟩).run
          (Script.start { mappers := [{ answers := [4194304, 0] }] })).outcome = .ok pool ∧
      (∀ i < 2, ∃ va bus, pool.SeesBuffer i va bus ∧ ∀ d < 1048576, ∃ va' bus',
        va.add? d = some va' ∧ bus.add? d = some bus' ∧ pool.toBus? va' = some bus') := by
  obtain ⟨pool, hcreate, hsize⟩ : ∃ pool,
      ((Context.createPool ⟨Script.platform { mappers := [{ answers := [4194304, 0] }] },
        some 0⟩ ⟨"rx", {}, 1048576, 2, 64⟩).run
          (Script.start { mappers := [{ answers := [4194304, 0] }] })).outcome = .ok pool ∧
      pool.geometry.bufferSize = 1048576 := ⟨_, rfl, rfl⟩
  obtain ⟨hexists, hrun, -⟩ := Pool.buffers_contiguous (κ := Nat) hcreate
  rw [hsize] at hrun
  refine ⟨pool, hcreate, fun i hi => ?_⟩
  obtain ⟨va, bus, hseen⟩ := hexists i hi
  exact ⟨va, bus, hseen, (hrun i hi va bus hseen).1⟩

end HugePool
