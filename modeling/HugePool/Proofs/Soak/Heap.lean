import HugePool.Proofs.Journal.Yields
import HugePool.Proofs.Pool.Notices
import HugePool.Proofs.Soak.Needs
import HugePool.Soak.Report

/-!
# Heaps with room for a batch

The soak check gets its pages from a heap.  An `AmpleHeap` is a platform on which the allocations of
a batch succeed: it hands out a piece for each pool, in order and just as long as the pool needs it,
takes the pieces back in the opposite order, has the working memory for the tables of the pools, and
translates an address to itself.  Where it puts the pages is left to it.

* `AmpleHeap.create_yields`: if its piece is the next one to be had, a pool is made.
* `AmpleHeap.release_yields`: a pool that was made on a heap is destroyed, and its piece is given
  back.
* `Heap.ample`: the heap that hands its memory out from one end on has room for a batch.
-/

namespace HugePool.Soak

variable {σ : Type}

/-- A platform without mappers whose allocations succeed while batches are worked. -/
structure AmpleHeap (σ : Type) (o : Options) where
  platform : Platform σ
  /-- In a state, pieces of these lengths are still to be had, one after the other, and those leases
  are out, the last one first. -/
  Room : List Nat → List Lease → σ → Prop
  take : ∀ {more : List Nat} {leases : List Lease} {s : σ} {len : UInt64},
    Room (len.toNat :: more) leases s →
    ∃ start : VirtAddr, (platform.mapPages len s).1.answer = .ok start ∧
      hugePageSize.toNat ∣ start.toNat ∧ start.toNat + len.toNat < UInt64.size ∧
      Room more (⟨start, len⟩ :: leases) (platform.mapPages len s).2
  takeBack : ∀ {more : List Nat} {leases : List Lease} {lease : Lease} {s : σ},
    Room more (lease :: leases) s →
    Room more leases (platform.unmapPages lease.start lease.len s).2
  /-- Once all of a batch was given back, there is room for a whole batch again. -/
  refill : ∀ {s : σ}, Room [] [] s → Room o.pieces [] s
  translate_eq : ∀ (va : VirtAddr) (s : σ), platform.translate va s = (.ok ⟨va.word⟩, s)
  reserve_eq : ∀ bytes ∈ o.tables, ∀ s : σ, platform.reserve bytes s = (true, s)
  /-- The state before anything was handed out. -/
  start : σ
  start_room : Room o.pieces [] start

namespace AmpleHeap

/-- Pools on a heap have no mapper. -/
def context {o : Options} (heap : AmpleHeap σ o) : Context σ := ⟨heap.platform, none⟩

variable {o : Options} (heap : AmpleHeap σ o) {more : List Nat} {leases : List Lease} {s : σ}

/-! ### The steps of making a pool -/

theorem requestMemory_yields {count size : Nat} (hbytes : count * size ∈ o.tables) (s : σ) :
    (heap.platform.requestMemory count size).Yields s () s := by
  have hgranted := heap.reserve_eq (count * size) hbytes s
  refine ⟨[], ?_⟩
  rw [heap.platform.run_requestMemory, hgranted]
  rfl

theorem resolve_yields (va : VirtAddr) (s : σ) :
    (heap.platform.resolve va).Yields s ⟨va.word⟩ s := by
  refine ⟨[.translate va (.ok ⟨va.word⟩)], ?_⟩
  rw [heap.platform.run_resolve, heap.translate_eq]
  rfl

theorem allocate_yields {g : Geometry} (hg : g.Sound) {payload : UInt64}
    (hpayload : payload.toNat = g.bufferSize.toNat * g.bufferCount.toNat)
    (hroom : heap.Room (pieceLen g :: more) leases s) :
    ∃ region s', (Region.allocate heap.platform payload g.headerOffset).Yields s region s' ∧
      region.headerOffset = g.headerOffset ∧ region.pageCount = g.hugePages ∧
      region.mapping.toNat + g.hugePages.toNat * hugePageSize.toNat < UInt64.size ∧
      heap.Room more (⟨region.mapping, region.mappedLen⟩ :: leases) s' := by
  obtain ⟨len, -, hlen⟩ := hg.mappedLen_eq_ok (ε := CreateError)
  rw [pieceLen, ← hlen] at hroom
  obtain ⟨mapping, hanswer, haligned, hfit, hroom'⟩ := heap.take hroom
  have hrequest : (heap.platform.requestPages len).Yields s mapping
      (heap.platform.mapPages len s).2 := by
    obtain ⟨before, hrun, -⟩ := heap.platform.run_requestPages len s
    rw [hanswer] at hrun
    exact ⟨_, hrun⟩
  have hmapped : (Memory.zero.storeWord 0 len).word 0 = len := Memory.word_storeWord _ _ _
  refine ⟨⟨mapping, g.headerOffset, Memory.zero.storeWord 0 len⟩,
    (heap.platform.mapPages len s).2, ?_, rfl, ?_, ?_, ?_⟩
  · have henter := Region.run_enter len g.headerOffset mapping (heap.platform.mapPages len s).2
    rw [if_pos (Address.offsetIn_huge_of_dvd haligned)] at henter
    rw [Region.allocate, Outcome.require_pos hg.wordBytes_le, Action.ofOutcome_ok_bind,
      Region.lengthFor_of_sound hg hpayload hlen, Action.ofOutcome_ok_bind]
    exact hrequest.bind ⟨_, henter⟩
  · exact Region.pageCount_eq (by rw [Region.mappedLen, hmapped, hlen])
  · exact hlen ▸ hfit
  · rw [Region.mappedLen, hmapped]
    exact hroom'

theorem recordPage_yields (device : Device) (start : VirtAddr) (page : Nat)
    (hfit : start.toNat + (page + 1) * hugePageSize.toNat < UInt64.size) (s : σ) :
    ∃ record, (PageTable.recordPage heap.platform none device start page).Yields s record s := by
  rw [Nat.succ_mul] at hfit
  have hpage : page * 1 ≤ page * hugePageSize.toNat := Nat.mul_le_mul_left _ (by decide)
  obtain ⟨virt, hvirt, hnat⟩ := Pool.bufferAt_eq_ok (ε := CreateError) start hugePageSize page
    (by omega) (by omega)
  -- the device sees the page where the process does, so it has room there as well
  have hfits : virt.toNat + hugePageSize.toNat < UInt64.size := by omega
  have hseen : (Address.toBus ⟨virt.word⟩).toNat + hugePageSize.toNat < UInt64.size := hfits
  rw [Pool.bufferAt] at hvirt
  refine ⟨⟨virt, Address.toBus ⟨virt.word⟩, hfits, hseen⟩, ?_⟩
  rw [PageTable.recordPage, hvirt, Action.ofOutcome_ok_bind]
  refine ((heap.resolve_yields virt s).mapError CreateError.translate).bind ?_
  refine (Action.Yields.pure _ s).bind ?_
  rw [dif_pos hseen, dif_pos hfits]
  exact (Action.Yields.note _ s).bind (Action.Yields.pure _ s)

theorem extend_yields (start : VirtAddr) (count : Nat) {t : PageTable} (hmapper : t.mapper = none)
    (hfit : start.toNat + (t.records.length + count) * hugePageSize.toNat < UInt64.size) (s : σ) :
    ∃ t', (PageTable.extend heap.platform start t count).Yields s t' s := by
  -- on the pages that are left, with the table that the pages before have left
  induction count generalizing t with
  | zero => exact ⟨t, Action.Yields.pure t s⟩
  | succ count ih =>
    have hnext : (t.records.length + 1) * hugePageSize.toNat
        ≤ (t.records.length + (count + 1)) * hugePageSize.toNat := Nat.mul_le_mul_right _ (by omega)
    obtain ⟨record, hrecord⟩ :=
      heap.recordPage_yields t.device start t.records.length (by omega) s
    rw [← hmapper] at hrecord
    have hlength : (t.records ++ [record]).length + count = t.records.length + (count + 1) := by
      rw [List.length_append, List.length_singleton]
      omega
    obtain ⟨t', ht'⟩ := ih (t := { t with records := t.records ++ [record] }) hmapper
      (by rw [hlength]; exact hfit)
    exact ⟨t', (hrecord.onFailure _).bind ht'⟩

theorem assemble_yields (config : Config) {g : Geometry} (hg : g.Sound) {payload : UInt64}
    (hpayload : payload.toNat = g.bufferSize.toNat * g.bufferCount.toNat) {region : Region}
    (hheader : region.headerOffset = g.headerOffset)
    (hfit : region.mapping.toNat + g.hugePages.toNat * hugePageSize.toNat < UInt64.size)
    (hstack : g.bufferCount.toNat * FreeStack.slotBytes ∈ o.tables) (table : PageTable) (s : σ) :
    ∃ pool, (Pool.assemble heap.platform config g payload region table).Yields s pool s := by
  obtain ⟨start, slots, hend, hstart, -, hslots, hbuffers⟩ :=
    Pool.parts_of_sound (ε := CreateError) hg hpayload hfit
  have hbase : (Pool.resolveBase heap.platform config.name start).Yields s ⟨start.word⟩ s := by
    obtain ⟨events, hrun⟩ := heap.resolve_yields start s
    refine ⟨events, ?_⟩
    show Pool.resolveBase heap.platform config.name start s = _
    rw [Pool.resolveBase, hrun]
    rfl
  refine ⟨⟨config.name, config.device, g, ⟨start, payload, hend⟩, ⟨start.word⟩, ⟨slots, 0⟩, table,
    region⟩, ?_⟩
  rw [Pool.assemble, Region.start, hheader, hstart, Action.ofOutcome_ok_bind]
  refine hbase.bind ((heap.requestMemory_yields hstack s).bind ?_)
  rw [hslots, Action.ofOutcome_ok_bind, hbuffers]
  exact (Action.Yields.note _ s).bind (Action.Yields.pure _ s)

/-! ### Pools -/

/-- **Creation**: if its piece is the next one to be had, a pool is made, and the piece is out. -/
theorem create_yields {config : Config} {g : Geometry} (hgeometry : config.geometry = .ok g)
    (htables : ∀ bytes ∈ tableLens g, bytes ∈ o.tables)
    (hroom : heap.Room (pieceLen g :: more) leases s) :
    ∃ pool s', (heap.context.createPool config).Yields s pool s' ∧
      heap.Room more (pool.lease :: leases) s' := by
  obtain ⟨hg, payload, hpayload, heq⟩ :=
    Pool.create_eq_of_geometry heap.platform none hgeometry
  have htable := htables _ List.mem_cons_self
  have hstack := htables _ (List.mem_cons_of_mem _ List.mem_cons_self)
  obtain ⟨region, s', hregion, hheader, hcount, hfit, hroom'⟩ :=
    heap.allocate_yields hg hpayload hroom
  obtain ⟨table, hextend⟩ := heap.extend_yields region.mapping g.hugePages.toNat
    (t := ⟨[], none, config.device⟩) rfl (by rwa [List.length_nil, Nat.zero_add]) s'
  have hbuild : (PageTable.build heap.platform none config.device region.mapping
      region.pageCount).Yields s' table s' := by
    rw [PageTable.build, hcount]
    exact (heap.requestMemory_yields htable s').bind hextend
  obtain ⟨pool, hassemble⟩ :=
    heap.assemble_yields config hg hpayload hheader hfit hstack table s'
  refine ⟨pool, s', ?_, ?_⟩
  · show (Pool.create heap.platform none config).Yields s pool s'
    rw [heq]
    refine (hregion.mapError _).bind (Action.Yields.onFailure _ ?_)
    exact hbuild.bind (hassemble.onFailure _)
  · -- the pool holds the region that it was made of
    obtain ⟨-, hheld, -⟩ := Pool.assemble_eq_ok hassemble.outcome_eq
    rw [Pool.lease, hheld]
    exact hroom'

/-- **Destruction**: the piece of a pool without a mapper is given back. -/
theorem release_yields {pool : Pool} (hmapper : pool.table.mapper = none)
    (hroom : heap.Room more (pool.lease :: leases) s) :
    ∃ s', (pool.release heap.platform).Yields s () s' ∧ heap.Room more leases s' := by
  refine ⟨_, ?_, heap.takeBack hroom⟩
  have htable : (pool.table.release heap.platform).Yields s () s := by
    rw [PageTable.release, hmapper]
    exact Action.Yields.ofOutcome () s
  have hpages : (heap.platform.returnPages pool.region.mapping pool.region.mappedLen
      : Action σ Empty Unit).Yields s ()
        (heap.platform.unmapPages pool.region.mapping pool.region.mappedLen s).2 := by
    refine (Action.Yields.ask _ s).bind (Action.Yields.bind ⟨_, Action.run_emit _ _⟩ ?_)
    cases (heap.platform.unmapPages pool.region.mapping pool.region.mappedLen s).1 with
    | none => exact Action.Yields.pure () _
    | some fault => cases fault <;> exact Action.Yields.note _ _
  refine (Action.Yields.note _ s).andThen (htable.andThen ?_)
  exact (Action.Yields.note _ s).bind hpages

end AmpleHeap

end HugePool.Soak

/-! ### The heap that is handed out from one end on -/

namespace HugePool.Heap

open Soak

/-- The leases are out, and what is left of the heap is enough for the pieces. -/
structure Lends (more : List Nat) (leases : List Lease) (heap : Heap) : Prop where
  pieces_eq : heap.pieces = leases.length
  aligned : hugePageSize.toNat ∣ heap.taken
  whole : ∀ piece ∈ more, 0 < piece ∧ hugePageSize.toNat ∣ piece
  enough : heap.taken + more.sum ≤ room
  possible : ∀ lease ∈ leases, lease.len ≤ largestLen
  idle : leases = [] → heap = {}

variable {more : List Nat} {leases : List Lease} {heap : Heap}

theorem Lends.new (o : Options) : Lends o.pieces [] {} where
  pieces_eq := rfl
  aligned := Nat.dvd_zero _
  whole := o.pieces_whole
  enough := (Nat.zero_add _).trans_le (o.sum_pieces_le.trans (by decide))
  possible := List.forall_mem_nil _
  idle _ := rfl

theorem Lends.take {len : UInt64} (h : Lends (len.toNat :: more) leases heap) :
    ∃ start : VirtAddr, mapPages len heap
        = (.ok start, ⟨heap.taken + wholePages len, heap.pieces + 1⟩) ∧
      hugePageSize.toNat ∣ start.toNat ∧ start.toNat + len.toNat < UInt64.size ∧
      Lends more (⟨start, len⟩ :: leases) ⟨heap.taken + wholePages len, heap.pieces + 1⟩ := by
  obtain ⟨⟨hpos, hdvd⟩, hwhole⟩ := List.forall_mem_cons.mp h.whole
  have henough := h.enough
  have haligned := h.aligned
  rw [List.sum_cons, room] at henough
  rw [toNat_hugePageSize] at haligned
  -- the piece is whole pages already
  have hpages : wholePages len = len.toNat := by
    rw [toNat_hugePageSize] at hdvd
    rw [wholePages, toNat_hugePageSize]
    omega
  have hlen : len ≤ largestLen := by
    have hlargest : largestLen.toNat = 9223372036852678656 := rfl
    rw [UInt64.le_iff_toNat_le]
    omega
  have hnone : heap.refusal? len = none := by
    have hzero : len ≠ 0 := by
      rintro rfl
      exact absurd hpos (by decide)
    rw [refusal?, if_neg (UInt64.not_lt.mpr hlen), if_neg]
    rintro (hzero' | hroom)
    · exact hzero hzero'
    · rw [room] at hroom
      omega
  have hstart : (start + UInt64.ofNat heap.taken).toNat = 139637976727552 + heap.taken := by
    have hnat : start.toNat = 139637976727552 := rfl
    rw [UInt64.toNat_add, UInt64.toNat_ofNat_of_lt' (by simp only [UInt64.size]; omega), hnat,
      Nat.mod_eq_of_lt (by omega)]
  refine ⟨⟨start + UInt64.ofNat heap.taken⟩, ?_, ?_, ?_, ?_⟩
  · rw [mapPages, hnone]
  · show hugePageSize.toNat ∣ (start + UInt64.ofNat heap.taken).toNat
    rw [hstart, toNat_hugePageSize]
    omega
  · show (start + UInt64.ofNat heap.taken).toNat + len.toNat < UInt64.size
    rw [hstart, UInt64.size]
    omega
  · exact {
      pieces_eq := congrArg Nat.succ h.pieces_eq
      aligned := Nat.dvd_add h.aligned (hpages ▸ hdvd)
      whole := hwhole
      enough := by
        simp only [room]
        omega
      possible := List.forall_mem_cons.mpr ⟨hlen, h.possible⟩
      idle := fun h => absurd h (List.cons_ne_nil _ _) }

theorem Lends.takeBack {lease : Lease} (h : Lends more (lease :: leases) heap) :
    (unmapPages lease.len heap).2 = heap.release ∧ Lends more leases heap.release := by
  have hlen : lease.len ≤ largestLen := h.possible lease List.mem_cons_self
  have hpieces : heap.pieces = leases.length + 1 := h.pieces_eq
  refine ⟨by rw [unmapPages, if_neg (UInt64.not_lt.mpr hlen)], ?_⟩
  have hrest := List.forall_mem_of_forall_mem_cons h.possible
  cases hleases : leases with
  | nil =>
    -- with its last piece all of the heap comes back
    have hlast : heap.pieces ≤ 1 := by rw [hpieces, hleases, List.length_nil]
    rw [release, if_pos hlast]
    exact ⟨rfl, Nat.dvd_zero _, h.whole,
      le_trans (Nat.add_le_add_right (Nat.zero_le _) _) h.enough, List.forall_mem_nil _,
      fun _ => rfl⟩
  | cons next rest =>
    have hlast : ¬ heap.pieces ≤ 1 := by
      rw [hpieces, hleases, List.length_cons]
      omega
    rw [release, if_neg hlast]
    rw [hleases] at hpieces hrest
    exact ⟨Nat.sub_eq_of_eq_add hpieces, h.aligned, h.whole, h.enough, hrest,
      fun h => absurd h (List.cons_ne_nil _ _)⟩

/-- It has room for a batch. -/
def ample (o : Options) : AmpleHeap Heap o where
  platform := platform
  Room := Lends
  take h := by
    obtain ⟨start, hmap, haligned, hfit, hlends⟩ := h.take
    refine ⟨start, ?_, haligned, hfit, ?_⟩
    · show (mapPages _ _).1 = _
      rw [hmap]
    · show Lends _ _ (mapPages _ _).2
      rw [hmap]
      exact hlends
  takeBack h := by
    show Lends _ _ (unmapPages _ _).2
    rw [h.takeBack.1]
    exact h.takeBack.2
  refill h := by
    rw [h.idle rfl]
    exact Lends.new o
  translate_eq _ _ := rfl
  reserve_eq bytes hbytes _ := by
    have hlt : bytes < room := (o.tables_le bytes hbytes).trans_lt (by decide)
    exact congrArg (·, _) (decide_eq_true hlt)
  start := {}
  start_room := Lends.new o

end HugePool.Heap
