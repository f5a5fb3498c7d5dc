import HugePool.Pool.Spans
import HugePool.Proofs.Pool.Contiguity
import HugePool.Proofs.Pool.Lifo

/-!
# Spans that a transfer may use

A span may be used for a transfer if it lies among the buffers and in one huge page.  A pool asks
the two questions with a range each, and finds the page and the bus address by two scans of its
table.

* `Pool.pageFor?` is the page that a pool finds for a span.  `Pool.mapSpan_eq_ok_iff` and
  `Pool.unmapSpan_eq_ok_iff` put both operations in terms of it, for any pool.
* `Pool.Transferable` is what spans are expected to be, in numbers.  They are those for which there
  is a page (`Pool.transferable_iff`), and in a pool that was made this page tells where the device
  sees the start (`Pool.Intact.toBus?_of_pageFor?`), because no other page has that address.
* `Pool.spans_exact` is the main statement.  What was begun can be ended by the bus address that was
  answered, unless two pages overlap on the bus: then that address may be found in the other page.
-/

namespace HugePool

/-! ### One page -/

namespace PageRecord

variable {r : PageRecord} {va : VirtAddr}

theorem containsSpan_iff {len : UInt64} : r.virtRange.containsSpan va len = true ↔
    va.toNat ∈ r.virtSpan ∧ va.toNat + len.toNat ≤ r.virt.toNat + hugePageSize.toNat :=
  Range.containsSpan_iff

/-- The bus address is as far from the start of the page as the virtual one. -/
theorem toBus?_of_offsetOf? {offset : UInt64} (h : r.virtRange.offsetOf? va = some offset) :
    r.toBus? va = r.bus.add? offset := by
  obtain ⟨hva, hlt⟩ := Range.offsetOf?_eq_some_iff.mp h
  have hstart : r.virtRange.start = r.virt := rfl
  have hlen : r.virtRange.len = hugePageSize := rfl
  rw [hstart] at hva
  rw [hlen] at hlt
  have hmem : va ∈ r.virtRange := ⟨by rw [hstart]; omega, by rw [hstart, hlen]; omega⟩
  obtain ⟨bus, hbus⟩ := r.exists_toBus? hmem
  obtain ⟨-, hshift⟩ := toBus?_eq_some_iff.mp hbus
  rw [hbus, eq_comm, Address.add?_eq_some_iff]
  omega

end PageRecord

namespace Pool

variable {σ : Type}

/-! ### Any pool -/

/-- The page that holds a span, for a span among the buffers. -/
def pageFor? (pool : Pool) (va : VirtAddr) (len : UInt64) : Option PageRecord :=
  if pool.buffers.containsSpan va len then pool.table.pageOfSpan? va len else none

section

variable {pool : Pool} {va : VirtAddr} {bus : BusAddr} {len : UInt64} {direction : Direction}
  {t : σ}

/-- The page that is found has the span. -/
theorem containsSpan_of_pageFor? {r : PageRecord} (h : pool.pageFor? va len = some r) :
    r.virtRange.containsSpan va len = true := by
  unfold pageFor? at h
  split at h
  · exact List.find?_some (p := fun r : PageRecord => r.virtRange.containsSpan va len) h
  · cases h

theorem run_mapSpan_of_none (h : pool.pageFor? va len = none) :
    (pool.mapSpan va len direction).run t = ⟨[], t, .error ⟨va.word, len⟩⟩ := by
  unfold pageFor? at h
  unfold mapSpan
  split at h
  · rename_i hinside
    rw [if_pos hinside, h]
    rfl
  · rename_i houtside
    rw [if_neg houtside]
    rfl

theorem run_mapSpan_of_some {r : PageRecord} (h : pool.pageFor? va len = some r)
    (direction : Direction) (t : σ) :
    ∃ bus, r.toBus? va = some bus ∧
      (pool.mapSpan va len direction).run t
        = ⟨[.log (Notice.spanMapped pool.name va len direction)], t, .ok bus⟩ := by
  have hspan := containsSpan_of_pageFor? h
  obtain ⟨bus, hbus⟩ := r.exists_toBus? (Range.containsSpan_iff.mp hspan).1
  refine ⟨bus, hbus, ?_⟩
  unfold pageFor? at h
  split at h
  · rename_i hinside
    obtain ⟨offset, hoffset⟩ : ∃ offset, r.virtRange.offsetOf? va = some offset :=
      Option.isSome_iff_exists.mp (Range.contains_iff.mpr (Range.containsSpan_iff.mp hspan).1)
    have hadd : r.bus.add? offset = some bus :=
      (PageRecord.toBus?_of_offsetOf? hoffset).symm.trans hbus
    rw [mapSpan, if_pos hinside, h]
    simp only [hoffset]
    rw [Action.run_bind, Address.add, hadd]
    rfl
  · cases h

theorem state_mapSpan : ((pool.mapSpan va len direction).run t).state = t := by
  cases h : pool.pageFor? va len with
  | none => rw [run_mapSpan_of_none h]
  | some r =>
    obtain ⟨bus, -, hrun⟩ := run_mapSpan_of_some h direction t
    rw [hrun]

/-- A span is answered with the bus address that its page tells. -/
theorem mapSpan_eq_ok_iff : ((pool.mapSpan va len direction).run t).outcome = .ok bus ↔
    ∃ r, pool.pageFor? va len = some r ∧ r.toBus? va = some bus := by
  cases h : pool.pageFor? va len with
  | none => simp [run_mapSpan_of_none h]
  | some r =>
    obtain ⟨bus', hbus', hrun⟩ := run_mapSpan_of_some h direction t
    simp [hrun, hbus']

theorem run_unmapSpan : (pool.unmapSpan bus len direction).run t =
    match (pool.toVirtual? bus).bind (pool.pageFor? · len) with
    | some _ => ⟨[.log (Notice.spanUnmapped pool.name bus len direction)], t, .ok ()⟩
    | none => ⟨[], t, .error ⟨bus.word, len⟩⟩ := by
  unfold unmapSpan
  cases pool.toVirtual? bus with
  | none => rfl
  | some va =>
    simp only [Option.bind_some, pageFor?]
    cases pool.buffers.containsSpan va len with
    | false => rfl
    | true =>
      cases pool.table.pageOfSpan? va len with
      | none => rfl
      | some r => rfl

theorem state_unmapSpan : ((pool.unmapSpan bus len direction).run t).state = t := by
  rw [run_unmapSpan]
  split <;> rfl

/-- Whatever is wrong with a transfer that is to be ended, the answer names the address and length
that were given. -/
theorem outcome_unmapSpan_of_ne_ok
    (h : ((pool.unmapSpan bus len direction).run t).outcome ≠ .ok ()) :
    ((pool.unmapSpan bus len direction).run t).outcome = .error ⟨bus.word, len⟩ := by
  rw [run_unmapSpan] at h ⊢
  cases hpage : (pool.toVirtual? bus).bind (pool.pageFor? · len) with
  | none => rfl
  | some r =>
    rw [hpage] at h
    exact (h rfl).elim

/-- A transfer is ended by an address that is found for the start of a span with a page. -/
theorem unmapSpan_eq_ok_iff : ((pool.unmapSpan bus len direction).run t).outcome = .ok () ↔
    ∃ va r, pool.toVirtual? bus = some va ∧ pool.pageFor? va len = some r := by
  rw [run_unmapSpan]
  cases hpage : (pool.toVirtual? bus).bind (pool.pageFor? · len) with
  | none =>
    rw [Option.bind_eq_none_iff] at hpage
    simp only [reduceCtorEq, false_iff, not_exists, not_and]
    intro va r hva hr
    rw [hpage va hva] at hr
    cases hr
  | some r =>
    obtain ⟨va, hva, hr⟩ := Option.bind_eq_some_iff.mp hpage
    simp only [true_iff]
    exact ⟨va, r, hva, hr⟩

end

/-! ### Pools that were made -/

/-- A span starts among the buffers, ends with them at the latest, and does not cross the end of the
huge page that it starts in. -/
structure Transferable (pool : Pool) (va : VirtAddr) (len : UInt64) : Prop where
  base_le : pool.baseVirtual.toNat ≤ va.toNat
  lt_stop : va.toNat < pool.baseVirtual.toNat
    + pool.geometry.bufferSize.toNat * pool.geometry.bufferCount.toNat
  end_le : va.toNat + len.toNat ≤ pool.baseVirtual.toNat
    + pool.geometry.bufferSize.toNat * pool.geometry.bufferCount.toNat
  page : ∃ r ∈ pool.hugePages, va.toNat ∈ r.virtSpan ∧
    va.toNat + len.toNat ≤ r.virt.toNat + hugePageSize.toNat

/-- The spans that a transfer may use are those for which there is a page. -/
theorem transferable_iff {pool : Pool} (hlen : pool.buffers.len.toNat
      = pool.geometry.bufferSize.toNat * pool.geometry.bufferCount.toNat)
    {va : VirtAddr} {len : UInt64} :
    pool.Transferable va len ↔ ∃ r, pool.pageFor? va len = some r := by
  have hinside : pool.buffers.containsSpan va len = true ↔
      (pool.baseVirtual.toNat ≤ va.toNat ∧ va.toNat < pool.baseVirtual.toNat
        + pool.geometry.bufferSize.toNat * pool.geometry.bufferCount.toNat) ∧
      va.toNat + len.toNat ≤ pool.baseVirtual.toNat
        + pool.geometry.bufferSize.toNat * pool.geometry.bufferCount.toNat := by
    rw [Range.containsSpan_iff, Range.mem_iff, hlen]
    rfl
  have hpage : (pool.table.pageOfSpan? va len).isSome ↔ ∃ r ∈ pool.hugePages,
      va.toNat ∈ r.virtSpan ∧ va.toNat + len.toNat ≤ r.virt.toNat + hugePageSize.toNat := by
    rw [PageTable.pageOfSpan?, List.find?_isSome]
    simp only [PageRecord.containsSpan_iff]
    rfl
  constructor
  · rintro ⟨hle, hlt, hend, hr⟩
    rw [pageFor?, if_pos (hinside.mpr ⟨⟨hle, hlt⟩, hend⟩)]
    exact Option.isSome_iff_exists.mp (hpage.mpr hr)
  · rintro ⟨r, hr⟩
    unfold pageFor? at hr
    split at hr
    · rename_i hin
      obtain ⟨⟨hle, hlt⟩, hend⟩ := hinside.mp hin
      exact ⟨hle, hlt, hend, hpage.mp (Option.isSome_iff_exists.mpr ⟨r, hr⟩)⟩
    · cases hr

namespace Intact

variable {pool : Pool} (h : pool.Intact)

include h

/-- The page that has a span is the one that has its start. -/
theorem toBus?_of_pageFor? {va : VirtAddr} {len : UInt64} {r : PageRecord}
    (hpage : pool.pageFor? va len = some r) : pool.toBus? va = r.toBus? va := by
  have hspan := containsSpan_of_pageFor? hpage
  obtain ⟨bus, hbus⟩ := r.exists_toBus? (Range.containsSpan_iff.mp hspan).1
  have hr : r ∈ pool.hugePages := by
    unfold pageFor? at hpage
    split at hpage
    · exact List.mem_of_find?_eq_some hpage
    · cases hpage
  rw [hbus]
  exact h.toBus?_eq_some_iff.mpr ⟨r, hr, hbus⟩

/-- A span of one buffer may be used. -/
theorem transferable_of_buffer {i : Nat} (hi : i < pool.geometry.bufferCount.toNat)
    {va : VirtAddr} {len : UInt64}
    (hle : pool.baseVirtual.toNat + i * pool.geometry.bufferSize.toNat ≤ va.toNat)
    (hlt : va.toNat < pool.baseVirtual.toNat + (i + 1) * pool.geometry.bufferSize.toNat)
    (hend : va.toNat + len.toNat
      ≤ pool.baseVirtual.toNat + (i + 1) * pool.geometry.bufferSize.toNat) :
    pool.Transferable va len := by
  obtain ⟨start, bus, hseen⟩ := h.exists_seesBuffer hi
  obtain ⟨r, hr, -, hstart, hstop⟩ := h.exists_home hi hseen
  have hlast : (i + 1) * pool.geometry.bufferSize.toNat
      ≤ pool.geometry.bufferSize.toNat * pool.geometry.bufferCount.toNat := by
    rw [Nat.mul_comm]
    exact Nat.mul_le_mul_left _ hi
  have hnext : (i + 1) * pool.geometry.bufferSize.toNat
      = i * pool.geometry.bufferSize.toNat + pool.geometry.bufferSize.toNat := Nat.succ_mul _ _
  have hva := hseen.start
  exact ⟨by omega, by omega, by omega, r, hr, ⟨by omega, by omega⟩, by omega⟩

end Intact

/-- **Spans**: whatever was taken and given back before, a pool that was made answers a span with
the bus address of its start if the span starts among the buffers, ends with them at the latest and
does not cross the end of its huge page, and refuses every other span.  A transfer is ended by a bus
address that is found for the start of such a span, and, if no two pages overlap on the bus, by
those bus addresses that spans of the same length are answered with.  Neither operation changes
anything, and least of all the pool that it is asked of. -/
theorem spans_exact {κ σ τ : Type} {context : Context σ} {config : Config} {s : σ} {pool : Pool}
    (hcreate : ((context.createPool config).run s).outcome = .ok pool) (calls : List (Call κ))
    (len : UInt64) (direction direction' : Direction) (t : τ) :
    let left := (pool.serveAll calls).2
    let begun := fun va : VirtAddr => (left.mapSpan va len direction).run t
    let ended := fun bus : BusAddr => (left.unmapSpan bus len direction').run t
    (∀ va, ((∃ bus, (begun va).outcome = .ok bus) ↔ left.Transferable va len) ∧
      (∀ bus, (begun va).outcome = .ok bus → left.toBus? va = some bus) ∧
      (¬ left.Transferable va len → (begun va).outcome = .error ⟨va.word, len⟩)) ∧
    (∀ i < config.bufferCount.toNat, ∀ va : VirtAddr,
      let start := left.baseVirtual.toNat + i * left.geometry.bufferSize.toNat
      let stop := left.baseVirtual.toNat + (i + 1) * left.geometry.bufferSize.toNat
      start ≤ va.toNat → va.toNat < stop → va.toNat + len.toNat ≤ stop →
        ∃ bus, (begun va).outcome = .ok bus) ∧
    (∀ bus, ((ended bus).outcome = .ok () ↔
        ∃ va bus', left.toVirtual? bus = some va ∧ (begun va).outcome = .ok bus') ∧
      ((ended bus).outcome ≠ .ok () → (ended bus).outcome = .error ⟨bus.word, len⟩)) ∧
    ((left.hugePages.Pairwise fun r r' => Disjoint r.busSpan r'.busSpan) →
      ∀ bus, (ended bus).outcome = .ok () ↔ ∃ va, (begun va).outcome = .ok bus) ∧
    (∀ va, (begun va).state = t) ∧ (∀ bus, (ended bus).state = t) ∧
    (∀ va, ((left.mapSpan va len direction).run left).state = left) ∧
    ∀ bus, ((left.unmapSpan bus len direction').run left).state = left := by
  intro left begun ended
  have hleft : Restacked pool left := restacked_of_create hcreate calls
  obtain ⟨hmade, hgeometry, -⟩ := create_eq_ok hcreate
  have hintact : left.Intact := hleft.intact hmade
  have hlen : left.buffers.len.toNat
      = left.geometry.bufferSize.toNat * left.geometry.bufferCount.toNat := by
    have hmadeLen := buffers_len_of_create hcreate
    rw [hleft.frame]
    exact hmadeLen
  have hcount : left.geometry.bufferCount = config.bufferCount := by
    rw [hleft.frame]
    exact (Geometry.compute_eq_ok (Config.compute_of_geometry hgeometry)).1
  -- a span is answered just when there is a page for it
  have hbegun : ∀ va, left.Transferable va len → ∃ bus, (begun va).outcome = .ok bus := by
    intro va hva
    obtain ⟨r, hr⟩ := (transferable_iff hlen).mp hva
    obtain ⟨bus, -, hrun⟩ := run_mapSpan_of_some hr direction t
    exact ⟨bus, congrArg Trace.outcome hrun⟩
  have hseen : ∀ va bus, (begun va).outcome = .ok bus →
      left.Transferable va len ∧ left.toBus? va = some bus := by
    intro va bus hbus
    obtain ⟨r, hr, hfound⟩ := mapSpan_eq_ok_iff.mp hbus
    exact ⟨(transferable_iff hlen).mpr ⟨r, hr⟩, (hintact.toBus?_of_pageFor? hr).trans hfound⟩
  have hended : ∀ bus, (ended bus).outcome = .ok () ↔
      ∃ va bus', left.toVirtual? bus = some va ∧ (begun va).outcome = .ok bus' := by
    intro bus
    refine unmapSpan_eq_ok_iff.trans ⟨?_, ?_⟩
    · rintro ⟨va, r, hva, hr⟩
      obtain ⟨bus', hbus'⟩ := hbegun va ((transferable_iff hlen).mpr ⟨r, hr⟩)
      exact ⟨va, bus', hva, hbus'⟩
    · rintro ⟨va, bus', hva, hbus'⟩
      obtain ⟨r, hr⟩ := (transferable_iff hlen).mp (hseen va bus' hbus').1
      exact ⟨va, r, hva, hr⟩
  refine ⟨fun va => ⟨⟨?_, hbegun va⟩, fun bus hbus => (hseen va bus hbus).2, ?_⟩, ?_,
    fun bus => ⟨hended bus, outcome_unmapSpan_of_ne_ok⟩, ?_, ?_, ?_, ?_, ?_⟩
  · rintro ⟨bus, hbus⟩
    exact (hseen va bus hbus).1
  · intro hva
    cases hpage : left.pageFor? va len with
    | none => exact congrArg Trace.outcome (run_mapSpan_of_none hpage)
    | some r => exact absurd ((transferable_iff hlen).mpr ⟨r, hpage⟩) hva
  · intro i hi va start stop hle hlt hend
    exact hbegun va (hintact.transferable_of_buffer (hcount ▸ hi) hle hlt hend)
  · intro hbuses bus
    rw [hended]
    constructor
    · rintro ⟨va, bus', hva, hbus'⟩
      -- the bus address that is answered is the one that was asked about
      have hsame : bus' = bus := Option.some.inj
        ((hseen va bus' hbus').2.symm.trans (hintact.toBus?_of_toVirtual? hva))
      exact ⟨va, hsame ▸ hbus'⟩
    · rintro ⟨va, hva⟩
      exact ⟨va, bus, hintact.toVirtual?_of_toBus? hbuses (hseen va bus hva).2, hva⟩
  · exact fun va => state_mapSpan
  · exact fun bus => state_unmapSpan
  · exact fun va => state_mapSpan
  · exact fun bus => state_unmapSpan

/-- The first of two buffers, from its middle on, and one byte more: the end of the buffer is the
end of its huge page. -/
theorem spans_exact_page_end :
    ∃ pool, ((Context.createPool ⟨Script.platform { mappers := [{ answers := [4194304, 0] }] },
        some 0⟩ ⟨"rx", {}, 1048576, 2, 64⟩).run
          (Script.start { mappers := [{ answers := [4194304, 0] }] })).outcome = .ok pool ∧
      pool.Transferable ⟨4296540160⟩ 524288 ∧ ¬ pool.Transferable ⟨4296540160⟩ 524289 ∧
      (∃ va, ((pool.mapSpan va 524288 .toDevice).run pool).outcome = .ok ⟨5767168⟩) ∧
      ∃ bus, ((pool.mapSpan ⟨4296540160⟩ 524288 .toDevice).run pool).outcome = .ok bus := by
  obtain ⟨pool, r, r', hcreate, hbegun, hrefused, hended, hrecords, hbus, hbus', hbase, hsize⟩ :
      ∃ pool r r',
      ((Context.createPool ⟨Script.platform { mappers := [{ answers := [4194304, 0] }] },
        some 0⟩ ⟨"rx", {}, 1048576, 2, 64⟩).run
          (Script.start { mappers := [{ answers := [4194304, 0] }] })).outcome = .ok pool ∧
      ((pool.mapSpan ⟨4296540160⟩ 524288 .toDevice).run pool).outcome = .ok ⟨5767168⟩ ∧
      ((pool.mapSpan ⟨4296540160⟩ 524289 .toDevice).run pool).outcome
        = .error ⟨4296540160, 524289⟩ ∧
      ((pool.unmapSpan ⟨5767168⟩ 524288 .toDevice).run pool).outcome = .ok () ∧
      pool.hugePages = [r, r'] ∧ r.bus.toNat = 4194304 ∧ r'.bus.toNat = 0 ∧
      pool.baseVirtual.toNat = 4296015872 ∧ pool.geometry.bufferSize.toNat = 1048576 :=
    ⟨_, _, _, rfl, rfl, rfl, rfl, rfl, rfl, rfl, rfl, rfl⟩
  have hapart : pool.hugePages.Pairwise fun r r' => Disjoint r.busSpan r'.busSpan := by
    rw [hrecords]
    refine List.pairwise_pair.mpr (Set.disjoint_left.mpr fun place hplace hplace' => ?_)
    rw [PageRecord.busSpan, hbus] at hplace
    rw [PageRecord.busSpan, hbus', toNat_hugePageSize] at hplace'
    have := hplace.1
    have := hplace'.2
    omega
  obtain ⟨hspans, hinside, -, hback, -⟩ :=
    spans_exact (κ := Nat) hcreate [] 524288 .toDevice .toDevice pool
  obtain ⟨hspans', -⟩ := spans_exact (κ := Nat) hcreate [] 524289 .toDevice .toDevice pool
  refine ⟨pool, hcreate, (hspans _).1.mp ⟨_, hbegun⟩, fun h => ?_, (hback hapart _).mp hended,
    hinside 0 (by decide) _ ?_ ?_ ?_⟩
  · obtain ⟨bus, hok⟩ := (hspans' _).1.mpr h
    cases hok.symm.trans hrefused
  · show pool.baseVirtual.toNat + 0 * pool.geometry.bufferSize.toNat ≤ 4296540160
    rw [hbase, hsize]
    decide
  · show 4296540160 < pool.baseVirtual.toNat + (0 + 1) * pool.geometry.bufferSize.toNat
    rw [hbase, hsize]
    decide
  · show 4296540160 + 524288 ≤ pool.baseVirtual.toNat + (0 + 1) * pool.geometry.bufferSize.toNat
    rw [hbase, hsize]

end Pool

end HugePool
