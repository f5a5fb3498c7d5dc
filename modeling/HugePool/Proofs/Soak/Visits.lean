import HugePool.Proofs.Journal.Stages
import HugePool.Proofs.Pool.Custody
import HugePool.Proofs.Pool.Freshness
import HugePool.Proofs.Pool.Lengths
import HugePool.Proofs.Soak.Heap

/-!
# One pool through the soak check

The check takes all buffers of a pool, writes into some of them, translates addresses of each, and
returns all of them, the last one first.  A `Visit` has the pool at these four stages;
`Visit.Passed` says what the check has found there when it goes on.  It is put together stage by
stage, for a pool that was made on any platform and with any mapper:

* `Drained`: all buffers are out (`Fresh.drained`);
* `Marked`: something was written into them, too (`Marked.checkPattern_yields`);
* `Marked.checkAddresses_yields_iff`: this changes nothing about translations, and the check goes on
  if and only if every address that it visits translates to the bus and back;
* `Marked.putBack_yields`: all buffers are back.

Only the translations can go wrong.  They do not if the device sees every page where the process
does (`Direct`), because the process sees all pages at places of their own
(`Marked.translatesBack_of_direct`).
-/

namespace HugePool.Soak

variable {σ : Type}

open Custody (Kept Visible)

/-! ### New pools -/

/-- What the check relies on about a pool none of whose buffers is out. -/
structure Fresh (pool : Pool) : Prop where
  intact : pool.Intact
  unused : pool.free.head = 0
  starts : pool.free.slots.toList.map Address.toNat =
    (List.range pool.geometry.bufferCount.toNat).map
      (pool.geometry.bufferStart pool.region.mapping.toNat)

theorem Fresh.of_create {c : Context σ} {config : Config} {s : σ} {pool : Pool}
    (h : ((c.createPool config).run s).outcome = .ok pool) : Fresh pool := by
  obtain ⟨hintact, -, -, -, hhead, hstarts⟩ := Pool.create_eq_ok h
  exact ⟨hintact, hhead, hstarts⟩

/-- The device of a pool sees every page where the process does, and without a mapper. -/
structure Direct (pool : Pool) : Prop where
  unmapped : pool.table.mapper = none
  identical : ∀ r ∈ pool.hugePages, r.bus.toNat = r.virt.toNat

theorem AmpleHeap.direct_of_create {o : Options} (heap : AmpleHeap σ o) {config : Config} {s : σ}
    {pool : Pool} (h : ((heap.context.createPool config).run s).outcome = .ok pool) :
    Direct pool := by
  obtain ⟨-, -, hmapper, -⟩ := Pool.create_eq_ok h
  refine ⟨hmapper, fun r hr => ?_⟩
  obtain ⟨s', phys, hphys, hbus⟩ := (Pool.create_answered h).1 r hr
  have hanswer : (heap.platform.translate r.virt s').1 = .ok phys := hphys
  rw [heap.translate_eq] at hanswer
  rw [hbus, ← Except.ok.inj hanswer]
  rfl

namespace Fresh

variable {pool : Pool} (h : Fresh pool)

include h

theorem capacity_eq : pool.free.capacity = pool.geometry.bufferCount.toNat := by
  have hlen := congrArg List.length h.starts
  rwa [List.length_map, List.length_map, List.length_range, Array.length_toList] at hlen

theorem exists_index {va : VirtAddr} (hva : va ∈ pool.free.slots.toList) :
    ∃ i < pool.geometry.bufferCount.toNat,
      va.toNat = pool.geometry.bufferStart pool.region.mapping.toNat i := by
  have hmem := List.mem_map_of_mem (f := Address.toNat) hva
  rw [h.starts] at hmem
  obtain ⟨i, hi, hstart⟩ := List.mem_map.mp hmem
  exact ⟨i, List.mem_range.mp hi, hstart.symm⟩

theorem visible : Visible pool := by
  intro va hva
  obtain ⟨i, hi, hstart⟩ := h.exists_index hva
  exact h.intact.exists_toBus? hi hstart

/-- The device sees no two pages at the same place, because the process does not. -/
theorem busSpan_disjoint (hdirect : Direct pool) :
    pool.hugePages.Pairwise fun r r' => Disjoint r.busSpan r'.busSpan := by
  refine h.intact.virtSpan_disjoint.imp_of_mem fun {r r'} hr hr' hvirt => ?_
  rw [PageRecord.busSpan, PageRecord.busSpan, hdirect.identical r hr, hdirect.identical r' hr']
  exact hvirt

/-- Every address of a buffer translates to the bus and back. -/
theorem toBus?_bind_toVirtual? (hdirect : Direct pool) {start va : VirtAddr}
    (hstart : start ∈ pool.free.slots.toList) (hle : start.toNat ≤ va.toNat)
    (hlt : va.toNat < start.toNat + pool.geometry.bufferSize.toNat) :
    (pool.toBus? va).bind pool.toVirtual? = some va := by
  obtain ⟨i, hi, hi_start⟩ := h.exists_index hstart
  rw [hi_start] at hle hlt
  have hmapped := h.intact.sound.bufferSpan_subset_mappedSpan hi ⟨hle, hlt⟩
  obtain ⟨bus, hbus⟩ := Option.isSome_iff_exists.mp (h.intact.toBus?_isSome_iff.mpr hmapped)
  rw [hbus]
  exact h.intact.toVirtual?_of_toBus? (h.busSpan_disjoint hdirect) hbus

/-- Buffers end at an address. -/
theorem fits_of_mem {start : VirtAddr} (hstart : start ∈ pool.free.slots.toList) :
    start.toNat + pool.geometry.bufferSize.toNat < UInt64.size := by
  obtain ⟨i, hi, hi_start⟩ := h.exists_index hstart
  rw [hi_start]
  exact lt_of_le_of_lt (h.intact.sound.bufferStart_add_le hi) h.intact.fits

/-- What is written into a buffer is no part of what the check relies on. -/
theorem store {va : VirtAddr} (hva : va ∈ pool.free.slots.toList) (len : Nat) (f : Nat → UInt8) :
    pool.Same (pool.store va len f) ∧ Fresh (pool.store va len f) := by
  obtain ⟨i, -, hstart⟩ := h.exists_index hva
  have hheader := h.intact.sound.header_ge
  have hword : wordBytes.toNat = 8 := rfl
  have hpast : pool.region.mapping.toNat + wordBytes.toNat ≤ va.toNat := by
    rw [hstart, Geometry.bufferStart]
    omega
  have hsame : pool.Same (pool.store va len f) :=
    ⟨rfl, rfl, rfl, rfl, Pool.mappedLen_store_of_le len f hpast⟩
  exact ⟨hsame, hsame.intact h.intact, h.unused, h.starts⟩

end Fresh

/-! ### Taking all buffers -/

/-- Buffers are taken from a pool, one after the other, and nothing is told of it. -/
def Takes (buffers : List Buffer) (pool left : Pool) : Prop :=
  Chain (fun buffer pool events next => Pool.allocate.run pool = ⟨events, next, .ok buffer⟩)
    buffers pool [] left

/-- One client holds the buffers. -/
def heldBy (buffers : List Buffer) : List (Unit × Buffer) := buffers.map fun buffer => ((), buffer)

theorem takeBuffers_yields {pool : Pool} (hvisible : Visible pool) (name : String) (count : Nat)
    (taken : List Buffer) {now : Pool} (h : Kept pool ⟨now, heldBy taken⟩)
    (hroom : taken.length + count ≤ pool.free.capacity) :
    ∃ more left, (takeBuffers name taken count).Yields now (taken.reverse ++ more) left ∧
      Takes more now left ∧ more.length = count ∧
      (∀ buffer ∈ more, buffer.size = pool.geometry.bufferSize) ∧
      Kept pool ⟨left, heldBy (more.reverse ++ taken)⟩ := by
  -- on the buffers that are left to take, with those that are held by then
  induction count generalizing taken now with
  | zero =>
    refine ⟨[], now, ?_, .nil now, rfl, List.forall_mem_nil _, h⟩
    rw [List.append_nil]
    exact Action.Yields.pure _ now
  | succ count ih =>
    have hheld : (heldBy taken).length = taken.length := List.length_map ..
    obtain ⟨buffer, rest, hrun, hsize, -⟩ := h.allocate_of_free hvisible (by
      show (heldBy taken).length < _
      omega)
    have hkept := h.after hvisible (.allocate ()) trivial
    rw [Custody.after, hrun] at hkept
    obtain ⟨more, left, hyields, htakes, hlength, hsizes, hkept'⟩ := ih (buffer :: taken) hkept (by
      rw [List.length_cons]
      omega)
    have hallocate : Pool.allocate.Yields now buffer { now with free := rest } := ⟨[], hrun⟩
    refine ⟨buffer :: more, left, ?_, .cons_silent hrun htakes, congrArg Nat.succ hlength,
      List.forall_mem_cons.mpr ⟨hsize, hsizes⟩, ?_⟩
    · rw [List.reverse_cons, List.append_assoc, List.singleton_append] at hyields
      exact (hallocate.mapError _).bind hyields
    · rw [List.reverse_cons, List.append_assoc, List.singleton_append]
      exact hkept'

/-- All buffers of a pool were taken, and no more are to be had. -/
structure Drained (made now : Pool) (buffers : List Buffer) : Prop where
  drains : (drain made.name made.geometry.bufferCount.toNat).Yields made buffers now
  takes : Takes buffers made now
  complete : buffers.length = made.geometry.bufferCount.toNat
  exhausted : (Pool.allocate.run now).outcome = .error .exhausted
  sizes : ∀ buffer ∈ buffers, buffer.size = made.geometry.bufferSize
  kept : Kept made ⟨now, heldBy buffers.reverse⟩

theorem Fresh.drained {made : Pool} (h : Fresh made) : ∃ now buffers, Drained made now buffers := by
  have hnew : Kept made ⟨made, heldBy []⟩ := Kept.new h.unused
  obtain ⟨buffers, now, htake, htakes, hlength, hsizes, hkept⟩ :=
    takeBuffers_yields h.visible made.name made.geometry.bufferCount.toNat [] hnew (by
      rw [List.length_nil, Nat.zero_add, h.capacity_eq])
  rw [List.append_nil] at hkept
  have hfull := hkept.allocate_of_full (by
    show (heldBy buffers.reverse).length = _
    rw [heldBy, List.length_map, List.length_reverse, hlength, h.capacity_eq])
  have hexpect : (expectExhausted made.name).Yields now () now := by
    refine ⟨[], ?_⟩
    show expectExhausted made.name now = _
    rw [expectExhausted, hfull]
  refine ⟨now, buffers, ?_, htakes, hlength, congrArg Trace.outcome hfull, hsizes, hkept⟩
  exact htake.bind (hexpect.bind (Action.Yields.pure buffers now))

/-! ### Writing into buffers -/

/-- All buffers of a pool were taken, and something was written into some of them. -/
structure Marked (made drained base now : Pool) (buffers : List Buffer) : Prop where
  allTaken : Drained made drained buffers
  written : ∃ contents,
    now = { drained with region := { drained.region with contents := contents } }
  /-- The pool as it would be had nobody taken any buffers. -/
  same : made.Same base
  fresh : Fresh base
  kept : Kept base ⟨now, heldBy buffers.reverse⟩

theorem Drained.marked {made now : Pool} {buffers : List Buffer} (h : Drained made now buffers)
    (hfresh : Fresh made) : Marked made now made now buffers :=
  ⟨h, ⟨now.region.contents, rfl⟩, ⟨rfl, rfl, rfl, rfl, rfl⟩, hfresh, h.kept⟩

theorem load_store (pool : Pool) (va : VirtAddr) (len : Nat) (f : Nat → UInt8) :
    (pool.store va len f).load va len = (List.range len).map f := by
  refine List.map_congr_left fun i hi => ?_
  have hlt := List.mem_range.mp hi
  show (pool.region.contents.store (pool.placeOf va) len f).byteAt (pool.placeOf va + i) = f i
  rw [Memory.byteAt_store, if_pos (by omega), Nat.add_sub_cancel_left]

/-- What was just written is read again. -/
theorem checkPattern_yields (pool : Pool) (buffer : Buffer) :
    (checkPattern buffer).Yields pool ()
      (pool.store buffer.virt buffer.size.toNat patternByte) := by
  refine (Action.Yields.ask _ pool).bind ((Action.Yields.ask get _).bind ?_)
  dsimp only
  split
  case h_1 byte i hfound =>
    -- what differs from the pattern would have been written as the pattern has it
    have hmem : (byte, i) ∈ ((pool.store buffer.virt buffer.size.toNat patternByte).load buffer.virt
        buffer.size.toNat).zipIdx := List.mem_of_find?_eq_some hfound
    have hdiffers := List.find?_some hfound
    rw [load_store, List.mem_zipIdx_iff_getElem?, List.getElem?_map, Option.map_eq_some_iff] at hmem
    obtain ⟨j, hj, hpattern⟩ := hmem
    obtain ⟨hlt, rfl⟩ := List.getElem?_eq_some_iff.mp hj
    rw [List.getElem_range] at hpattern
    exact absurd hpattern.symm (bne_iff_ne.mp hdiffers)
  case h_2 => exact Action.Yields.note _ _

section

variable {made drained base now : Pool} {buffers : List Buffer}
  (h : Marked made drained base now buffers)

include h

namespace Marked

theorem mem_slots {buffer : Buffer} (hbuffer : buffer ∈ buffers) :
    buffer.virt ∈ base.free.slots.toList := by
  refine h.kept.perm.mem_iff.mp (List.mem_append_right _ ?_)
  simp only [Custody.addresses, heldBy, List.map_map]
  exact List.mem_map.mpr ⟨buffer, List.mem_reverse.mpr hbuffer, rfl⟩

theorem checkPattern_yields {buffer : Buffer} (hbuffer : buffer ∈ buffers) :
    ∃ base' now', (checkPattern buffer).Yields now () now' ∧
      Marked made drained base' now' buffers := by
  refine ⟨base.store buffer.virt buffer.size.toNat patternByte, _,
    Soak.checkPattern_yields now buffer, ?_⟩
  obtain ⟨hsame, hfresh⟩ :=
    h.fresh.store (h.mem_slots hbuffer) buffer.size.toNat patternByte
  obtain ⟨contents, hwritten⟩ := h.written
  have hframe := h.kept.frame
  constructor
  · exact h.allTaken
  · refine ⟨(now.store buffer.virt buffer.size.toNat patternByte).region.contents, ?_⟩
    rw [hwritten]
    rfl
  · exact ⟨h.same.geometry_eq, h.same.buffers_eq, h.same.table_eq, h.same.mapping_eq,
      hsame.mappedLen_eq.trans h.same.mappedLen_eq⟩
  · exact hfresh
  · refine ⟨?_, h.kept.capacity, h.kept.head_le, h.kept.perm⟩
    show now.store _ _ _ = { base.store _ _ _ with free := now.free }
    rw [show now = { base with free := now.free } from hframe]
    rfl

theorem fits {buffer : Buffer} (hbuffer : buffer ∈ buffers) :
    buffer.virt.toNat + buffer.size.toNat < UInt64.size := by
  rw [h.allTaken.sizes buffer hbuffer, ← h.same.geometry_eq]
  exact h.fresh.fits_of_mem (h.mem_slots hbuffer)

end Marked

end

/-! ### Translating addresses -/

/-- The addresses of buffers translate to the bus and back, those at multiples of a distance from
the start of their buffer. -/
def TranslatesBack (pool : Pool) (stride : Nat) (buffers : List Buffer) : Prop :=
  ∀ buffer ∈ buffers, ∀ (k : Nat) (va : VirtAddr), k * stride < buffer.size.toNat →
    va.toNat = buffer.virt.toNat + k * stride → (pool.toBus? va).bind pool.toVirtual? = some va

/-- The places that are visited are those in the buffer. -/
theorem lt_visits_iff {size stride : UInt64} (hstride : 0 < stride.toNat) {k : Nat} :
    k < visits size stride ↔ k * stride.toNat < size.toNat := by
  rw [visits, ← Nat.succ_le_iff, Nat.le_div_iff_mul_le hstride, Nat.succ_mul]
  omega

section

variable {pool : Pool} {buffer : Buffer} {stride : UInt64}

theorem checkBytes_succ_eq_ok_iff {offset : UInt64} {va : VirtAddr}
    (hadd : (buffer.virt.add offset : Outcome CheckError VirtAddr) = .ok va) (count : Nat) :
    checkBytes pool buffer stride offset (count + 1) = .ok () ↔
      (pool.toBus? va).bind pool.toVirtual? = some va ∧
        checkBytes pool buffer stride (offset + stride) count = .ok () := by
  rw [checkBytes, hadd, Outcome.ok_bind]
  cases hbus : pool.toBus? va with
  | none => simp [Outcome.ofOption]
  | some bus =>
    by_cases hback : pool.toVirtual? bus = some va <;> simp [Outcome.ofOption, hback]

/-- The check of a buffer goes well if and only if all places that are visited translate back. -/
theorem checkBytes_eq_ok_iff (hfits : buffer.virt.toNat + buffer.size.toNat < UInt64.size)
    (count : Nat) (offset : UInt64)
    (hvisited : ∀ k < count, offset.toNat + k * stride.toNat < buffer.size.toNat) :
    checkBytes pool buffer stride offset count = .ok () ↔ ∀ k < count, ∀ va : VirtAddr,
      va.toNat = buffer.virt.toNat + (offset.toNat + k * stride.toNat) →
      (pool.toBus? va).bind pool.toVirtual? = some va := by
  -- on the places that are left to visit, of which `offset` is the next one
  induction count generalizing offset with
  | zero => exact iff_of_true rfl fun k hk => absurd hk (Nat.not_lt_zero k)
  | succ count ih =>
    have hlt := hvisited 0 (Nat.succ_pos count)
    rw [Nat.zero_mul, Nat.add_zero] at hlt
    have hsum : (UInt64.ofNat (buffer.virt.toNat + offset.toNat)).toNat
        = buffer.virt.toNat + offset.toNat := UInt64.toNat_ofNat_of_lt' (by omega)
    have hadd : (buffer.virt.add offset : Outcome CheckError VirtAddr) = .ok ⟨_⟩ :=
      Outcome.orPanic_eq_ok_iff.mpr (Address.add?_eq_some_iff.mpr hsum)
    -- if there is a next place, the sum does not wrap
    have hnext : ∀ k < count, (offset + stride).toNat + k * stride.toNat
        = offset.toNat + (k + 1) * stride.toNat := by
      intro k hk
      have hplace := hvisited (k + 1) (Nat.succ_lt_succ hk)
      have hsize := buffer.size.toNat_lt_size
      rw [Nat.succ_mul] at hplace ⊢
      simp only [UInt64.size] at hsize
      rw [UInt64.toNat_add, Nat.mod_eq_of_lt (by omega)]
      omega
    rw [checkBytes_succ_eq_ok_iff hadd, Nat.forall_lt_succ_left, ih (offset + stride) fun k hk =>
      (hnext k hk).trans_lt (hvisited (k + 1) (Nat.succ_lt_succ hk))]
    refine and_congr ⟨fun hback va hva => ?_, fun hback => hback _ ?_⟩
      (forall₂_congr fun k hk => by rw [hnext k hk])
    · rw [Nat.zero_mul, Nat.add_zero] at hva
      obtain rfl : va = ⟨_⟩ := Address.toNat_inj.mp (hva.trans hsum.symm)
      exact hback
    · rw [Nat.zero_mul, Nat.add_zero]
      exact hsum

theorem checkBuffers_eq_ok_iff {buffers : List Buffer} :
    checkBuffers pool stride buffers = .ok () ↔ ∀ buffer ∈ buffers,
      checkBytes pool buffer stride 0 (visits buffer.size stride) = .ok () := by
  induction buffers with
  | nil => exact iff_of_true rfl (List.forall_mem_nil _)
  | cons buffer rest ih =>
    rw [List.forall_mem_cons, ← ih]
    exact Outcome.bind_eq_ok_iff.trans
      ⟨fun ⟨_, hbuffer, hrest⟩ => ⟨hbuffer, hrest⟩, fun ⟨hbuffer, hrest⟩ => ⟨(), hbuffer, hrest⟩⟩

end

section

variable {made drained base now : Pool} {buffers : List Buffer}
  (h : Marked made drained base now buffers)

include h

/-- The check goes on if and only if all addresses that are visited translate back. -/
theorem Marked.checkAddresses_yields_iff {stride : UInt64} (hstride : 0 < stride.toNat)
    {left : Pool} :
    (checkAddresses stride buffers).Yields now () left ↔
      left = now ∧ TranslatesBack now stride.toNat buffers := by
  have hbuffers : checkBuffers now stride buffers = .ok () ↔
      TranslatesBack now stride.toNat buffers := by
    refine checkBuffers_eq_ok_iff.trans (forall₂_congr fun buffer hbuffer => ?_)
    rw [checkBytes_eq_ok_iff (h.fits hbuffer) _ 0 fun k hk => ?_]
    · simp only [lt_visits_iff hstride, UInt64.toNat_zero, Nat.zero_add]
      exact forall_congr' fun k => forall_comm
    · rw [UInt64.toNat_zero, Nat.zero_add]
      exact (lt_visits_iff hstride).mp hk
  rw [← hbuffers]
  refine (Action.Yields.ask get now).bind_iff.trans ⟨?_, ?_⟩
  · rintro ⟨events, hrun⟩
    obtain ⟨_, _, _, _, hcheck, hreport, -⟩ := Action.run_bind_eq_mk_iff.mp hrun
    obtain ⟨-, rfl, hcheck⟩ := Action.run_ofOutcome_eq_mk_iff.mp hcheck
    obtain ⟨-, rfl, -⟩ := (Trace.mk.injEq ..).mp hreport
    exact ⟨rfl, hcheck⟩
  · rintro ⟨rfl, hcheck⟩
    show Action.Yields (Action.ofOutcome (checkBuffers left stride buffers) >>= _) left () left
    rw [hcheck]
    exact (Action.Yields.ofOutcome () left).bind (Action.Yields.note _ left)

/-- Where the device sees the pages as the process does, all addresses translate back. -/
theorem Marked.translatesBack_of_direct (hdirect : Direct made) (stride : Nat) :
    TranslatesBack now stride buffers := by
  intro buffer hbuffer k va hlt hva
  have hframe : now = { base with free := now.free } := h.kept.frame
  have hbase : Direct base := by
    refine ⟨h.same.table_eq ▸ hdirect.unmapped, ?_⟩
    rw [Pool.hugePages, h.same.table_eq]
    exact hdirect.identical
  rw [h.allTaken.sizes buffer hbuffer, ← h.same.geometry_eq] at hlt
  rw [hframe]
  exact h.fresh.toBus?_bind_toVirtual? hbase (h.mem_slots hbuffer) (by omega) (by omega)

end

/-! ### Returning all buffers -/

/-- Buffers are returned to a pool, one after the other, and nothing is told of it. -/
def Returns (buffers : List Buffer) (pool left : Pool) : Prop :=
  Chain (fun buffer pool events next =>
    (Pool.giveBack buffer.virt).run pool = ⟨events, next, .ok ()⟩) buffers pool [] left

theorem returnBuffers_yields {base : Pool} (hvisible : Visible base) (name : String)
    (buffers : List Buffer) {now : Pool} (h : Kept base ⟨now, heldBy buffers⟩) :
    ∃ left, (returnBuffers name buffers).Yields now () left ∧ Returns buffers now left ∧
      Kept base (⟨left, []⟩ : Custody Unit) := by
  -- on the buffers that are left to return, the first of which was taken last
  induction buffers generalizing now with
  | nil => exact ⟨now, Action.Yields.pure () now, .nil now, h⟩
  | cons buffer rest ih =>
    have hmem : buffer.virt ∈ Custody.addresses ⟨now, heldBy (buffer :: rest)⟩ :=
      List.mem_cons_self
    obtain ⟨hrun, -⟩ := h.giveBack_of_mem hmem
    have hkept := h.after hvisible (.giveBack () buffer.virt) hmem
    rw [Custody.after, hrun] at hkept
    have herase : (heldBy (buffer :: rest)).eraseP (·.2.virt = buffer.virt) = heldBy rest :=
      List.eraseP_cons_of_pos (by simp)
    obtain ⟨left, hyields, hreturns, hkept'⟩ := ih (herase ▸ hkept)
    have hgiveBack : (Pool.giveBack buffer.virt).Yields now ()
        { now with free := now.free.put buffer.virt } := ⟨[], hrun⟩
    exact ⟨left, (hgiveBack.mapError _).bind hyields, .cons_silent hrun hreturns, hkept'⟩

/-! ### The whole visit -/

/-- A pool at the stages of the check, and the buffers that were taken from it. -/
structure Visit where
  made : Pool
  drained : Pool
  marked : Pool
  left : Pool
  buffers : List Buffer

/-- What the check has found at a pool, if it visits addresses at a distance. -/
structure Visit.Passed (v : Visit) (stride : Nat) : Prop where
  takes : Takes v.buffers v.made v.drained
  complete : v.buffers.length = v.made.geometry.bufferCount.toNat
  exhausted : (Pool.allocate.run v.drained).outcome = .error .exhausted
  /-- Between taking and returning, only what is in the buffers changes. -/
  written : ∃ contents,
    v.marked = { v.drained with region := { v.drained.region with contents := contents } }
  inverse : TranslatesBack v.marked stride v.buffers
  returns : Returns v.buffers.reverse v.marked v.left
  counted : v.left.available = v.made.geometry.bufferCount.toNat
  /-- The pool still has the pages that it was made with. -/
  same : v.made.Same v.left

/-- **Visits**: a pool all of whose buffers are out and translate back gets them back, and has
passed. -/
theorem Marked.putBack_yields {made drained base now : Pool} {buffers : List Buffer}
    (h : Marked made drained base now buffers) {stride : Nat}
    (hinverse : TranslatesBack now stride buffers) :
    ∃ left, (putBack buffers).Yields now () left ∧
      (⟨made, drained, now, left, buffers⟩ : Visit).Passed stride := by
  obtain ⟨left, hyields, hreturns, hkept⟩ :=
    returnBuffers_yields h.fresh.visible now.name buffers.reverse h.kept
  have hframe : left = { base with free := left.free } := hkept.frame
  have hsame : base.Same left := by
    rw [hframe]
    exact ⟨rfl, rfl, rfl, rfl, rfl⟩
  have hcount : left.available = base.geometry.bufferCount.toNat := by
    rw [← h.fresh.capacity_eq]
    exact hkept.available_eq
  refine ⟨left, ?_, ?_⟩
  · refine (Action.Yields.ask get now).bind (hyields.bind ((Action.Yields.ask get left).bind ?_))
    show Action.Yields
      (if left.available = left.geometry.bufferCount.toNat then _ else _) left () left
    rw [if_pos (by rw [hcount, hsame.geometry_eq])]
    exact Action.Yields.pure () left
  · exact {
      takes := h.allTaken.takes
      complete := h.allTaken.complete
      exhausted := h.allTaken.exhausted
      written := h.written
      inverse := hinverse
      returns := hreturns
      counted := by rw [hcount, h.same.geometry_eq]
      same := ⟨hsame.geometry_eq.trans h.same.geometry_eq, hsame.buffers_eq.trans h.same.buffers_eq,
        hsame.table_eq.trans h.same.table_eq, hsame.mapping_eq.trans h.same.mapping_eq,
        hsame.mappedLen_eq.trans h.same.mappedLen_eq⟩ }

end HugePool.Soak
