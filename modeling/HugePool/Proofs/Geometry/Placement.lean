import HugePool.Pool.Lifecycle
import HugePool.Proofs.Geometry.Sound
import Mathlib.Order.CompletePartialOrder
import Mathlib.Order.Interval.Set.Disjoint

/-!
# Where the buffers of a pool lie

Buffer number `i` of a pool whose mapping starts at `mapping` has the bytes `g.bufferSpan mapping
i`, and `g.Placed mapping i` says all that a driver relies on: the span is aligned, shares no byte
with another buffer, lies in one huge page and in the mapping, and is clear of the word that records
the length of the mapping.

* `Sound.placed`: every buffer of a sound geometry is placed so, in a mapping that starts at a
  multiple of the huge page.
* `Pool.bufferAddrs_eq_ok`: the free stack of a new pool holds the starts of those spans.
* `buffers_placed`: both together, for a computed geometry, and that no write into a buffer changes
  the recorded length.

The one step with an argument is `Sound.exists_page`.  A distance that divides both the header and
the huge page divides every place at which a buffer starts, and from such a place there is room for
one more buffer before the page ends (`add_le_next_multiple`).
-/

namespace HugePool

namespace Geometry

/-- The first byte of buffer number `i`. -/
def bufferStart (g : Geometry) (mapping i : Nat) : Nat :=
  mapping + g.headerOffset.toNat + i * g.bufferSize.toNat

/-- The bytes of buffer number `i`. -/
def bufferSpan (g : Geometry) (mapping i : Nat) : Set Nat :=
  Set.Ico (g.bufferStart mapping i) (g.bufferStart mapping i + g.bufferSize.toNat)

/-- The bytes of huge page number `k`. -/
def pageSpan (mapping k : Nat) : Set Nat :=
  Set.Ico (mapping + k * hugePageSize.toNat) (mapping + (k + 1) * hugePageSize.toNat)

/-- The bytes of all huge pages. -/
def mappedSpan (g : Geometry) (mapping : Nat) : Set Nat :=
  Set.Ico mapping (mapping + g.hugePages.toNat * hugePageSize.toNat)

/-- What a driver relies on about buffer number `i`. -/
structure Placed (g : Geometry) (mapping i : Nat) : Prop where
  aligned : g.alignment.toNat ∣ g.bufferStart mapping i
  disjoint : ∀ j, j ≠ i → Disjoint (g.bufferSpan mapping i) (g.bufferSpan mapping j)
  in_page : ∃ k < g.hugePages.toNat, g.bufferSpan mapping i ⊆ pageSpan mapping k
  in_mapping : g.bufferSpan mapping i ⊆ g.mappedSpan mapping
  past_length : Disjoint (g.bufferSpan mapping i) (Set.Ico mapping (mapping + wordBytes.toNat))

/-! ### Spans of a sound geometry -/

/-- A multiple of `d` has room for `d` more before the next multiple of `page`, if `d` divides
`page`. -/
theorem add_le_next_multiple {d page a : Nat} (hpage : d ∣ page) (ha : d ∣ a) (hpos : 0 < page) :
    a + d ≤ (a / page + 1) * page := by
  have hlt := Nat.mod_lt a hpos
  have hdiv := Nat.div_add_mod' a page
  -- the way to the next multiple of `page` is itself a multiple of `d`
  have hgap : d ∣ page - a % page := Nat.dvd_sub hpage ((Nat.dvd_mod_iff hpage).mpr ha)
  have := Nat.le_of_dvd (Nat.sub_pos_of_lt hlt) hgap
  rw [Nat.succ_mul]
  omega

theorem bufferSpan_disjoint (g : Geometry) (mapping : Nat) {i j : Nat} (hne : i ≠ j) :
    Disjoint (g.bufferSpan mapping i) (g.bufferSpan mapping j) := by
  wlog hlt : i < j generalizing i j
  · exact (this hne.symm (by omega)).symm
  have hstep : (i + 1) * g.bufferSize.toNat ≤ j * g.bufferSize.toNat :=
    Nat.mul_le_mul_right _ hlt
  rw [Nat.succ_mul] at hstep
  apply Set.disjoint_left.mpr
  intro a hi hj
  simp only [bufferSpan, bufferStart, Set.mem_Ico] at hi hj
  omega

variable {g : Geometry} {mapping i : Nat}

/-- All buffers end before the mapping does. -/
theorem Sound.bufferStart_add_le (h : g.Sound) (hi : i < g.bufferCount.toNat) :
    g.bufferStart mapping i + g.bufferSize.toNat
      ≤ mapping + g.hugePages.toNat * hugePageSize.toNat := by
  have hstep : (i + 1) * g.bufferSize.toNat ≤ g.bufferCount.toNat * g.bufferSize.toNat :=
    Nat.mul_le_mul_right _ hi
  rw [Nat.succ_mul, Nat.mul_comm g.bufferCount.toNat] at hstep
  have hwhole := h.whole
  rw [bufferStart, toNat_hugePageSize]
  omega

theorem Sound.bufferSpan_subset_mappedSpan (h : g.Sound) (hi : i < g.bufferCount.toNat) :
    g.bufferSpan mapping i ⊆ g.mappedSpan mapping := by
  apply Set.Ico_subset_Ico
  · rw [bufferStart]
    omega
  · exact h.bufferStart_add_le hi

/-- No buffer crosses from one huge page into the next. -/
theorem Sound.exists_page (h : g.Sound) (hi : i < g.bufferCount.toNat) :
    ∃ k < g.hugePages.toNat, g.bufferSpan mapping i ⊆ pageSpan mapping k := by
  have hend : g.bufferStart mapping i + g.bufferSize.toNat
      ≤ mapping + g.hugePages.toNat * hugePageSize.toNat := h.bufferStart_add_le hi
  rcases h.contained with hone | ⟨hheader, hpage⟩
  · -- there is no next page
    rw [hone] at hend
    refine ⟨0, by omega, Set.Ico_subset_Ico ?_ hend⟩
    rw [bufferStart, Nat.zero_mul]
    omega
  · -- `place` is the distance of the buffer from the start of the mapping
    set place := g.headerOffset.toNat + i * g.bufferSize.toNat with hplace
    have hstart : g.bufferStart mapping i = mapping + place := by
      rw [bufferStart, hplace, Nat.add_assoc]
    have hdvd : g.bufferSize.toNat ∣ place := Nat.dvd_add hheader (Nat.dvd_mul_left _ _)
    have hblock :
        place + g.bufferSize.toNat ≤ (place / hugePageSize.toNat + 1) * hugePageSize.toNat :=
      add_le_next_multiple hpage hdvd (by decide)
    -- the page is the one in which `place` lies
    have hlow : place / hugePageSize.toNat * hugePageSize.toNat ≤ place := Nat.div_mul_le_self _ _
    have hlt : place < g.hugePages.toNat * hugePageSize.toNat := by
      have := h.stride_pos
      omega
    refine ⟨place / hugePageSize.toNat, Nat.div_lt_of_lt_mul (Nat.mul_comm _ _ ▸ hlt), ?_⟩
    rw [bufferSpan, pageSpan, hstart]
    exact Set.Ico_subset_Ico (by omega) (by omega)

/-- **Placement**: every buffer of a sound geometry is where a driver relies on it to be. -/
theorem Sound.placed (h : g.Sound) (hmapping : hugePageSize.toNat ∣ mapping)
    (hi : i < g.bufferCount.toNat) : g.Placed mapping i where
  aligned := by
    have hpage : g.alignment.toNat ∣ mapping := h.alignment_dvd_page.trans hmapping
    exact Nat.dvd_add (Nat.dvd_add hpage h.alignment_dvd_header)
      (h.alignment_dvd_stride.trans (Nat.dvd_mul_left _ _))
  disjoint j hj := g.bufferSpan_disjoint mapping hj.symm
  in_page := h.exists_page hi
  in_mapping := h.bufferSpan_subset_mappedSpan hi
  past_length := by
    have hheader := h.header_ge
    have hword : wordBytes.toNat = 8 := rfl
    apply Set.disjoint_left.mpr
    intro a ha hlen
    simp only [bufferSpan, bufferStart, Set.mem_Ico, hword] at ha hlen
    omega

end Geometry

/-! ### The buffers of a pool -/

namespace Pool

variable {ε : Type}

/-- Buffer number `i` starts `i` distances on, if that is an address. -/
theorem bufferAt_eq_ok (start : VirtAddr) (stride : UInt64) (i : Nat)
    (hi : i < UInt64.size) (hfit : start.toNat + i * stride.toNat < UInt64.size) :
    ∃ va, (bufferAt start stride i : Outcome ε VirtAddr) = .ok va ∧
      va.toNat = start.toNat + i * stride.toNat := by
  have hindex : (UInt64.ofNat i).toNat = i := UInt64.toNat_ofNat_of_lt' hi
  have hoffset : (UInt64.ofNat (i * stride.toNat)).toNat = i * stride.toNat :=
    UInt64.toNat_ofNat_of_lt' (by omega)
  have hmul : Word.mul? (UInt64.ofNat i) stride = some (UInt64.ofNat (i * stride.toNat)) := by
    rw [Word.mul?_eq_some_iff, hindex, hoffset]
  -- neither the product nor the sum wraps
  have hsum : (UInt64.ofNat (start.toNat + i * stride.toNat)).toNat
      = start.toNat + i * stride.toNat :=
    UInt64.toNat_ofNat_of_lt' hfit
  have hadd : start.add? (UInt64.ofNat (i * stride.toNat))
      = some ⟨UInt64.ofNat (start.toNat + i * stride.toNat)⟩ := by
    rw [Address.add?_eq_some_iff, hoffset]
    exact hsum
  refine ⟨⟨UInt64.ofNat (start.toNat + i * stride.toNat)⟩, ?_, hsum⟩
  rw [bufferAt, Word.mul, hmul]
  show start.add _ = _
  rw [Address.add, hadd, Outcome.orPanic_some]

/-- The buffers follow one another from those that were placed before. -/
theorem bufferAddrs_eq_ok (start : VirtAddr) {stride : UInt64} (hpos : 0 < stride.toNat)
    (count : Nat) (placed : Array VirtAddr)
    (hfit : start.toNat + (placed.size + count) * stride.toNat < UInt64.size) :
    ∃ slots, (bufferAddrs start stride placed count : Outcome ε _) = .ok slots ∧
      slots.toList.map Address.toNat = placed.toList.map Address.toNat
        ++ (List.range' placed.size count).map fun i => start.toNat + i * stride.toNat := by
  -- on what is left to place, so that the next index is the number of those already placed
  induction count generalizing placed with
  | zero => exact ⟨placed, rfl, by simp⟩
  | succ count ih =>
    have hlast : placed.size * stride.toNat ≤ (placed.size + (count + 1)) * stride.toNat :=
      Nat.mul_le_mul_right _ (Nat.le_add_right _ _)
    have hindex : placed.size * 1 ≤ placed.size * stride.toNat := Nat.mul_le_mul_left _ hpos
    obtain ⟨va, hva, hnat⟩ := bufferAt_eq_ok (ε := ε) start stride placed.size
      (by omega) (by omega)
    have hsize : (placed.push va).size + count = placed.size + (count + 1) := by
      rw [Array.size_push]
      omega
    obtain ⟨slots, hslots, hlist⟩ := ih (placed.push va) (by rw [hsize]; exact hfit)
    refine ⟨slots, ?_, ?_⟩
    · rw [bufferAddrs, hva]
      exact hslots
    · rw [hlist, Array.size_push, Array.toList_push, List.map_append, List.range'_succ,
        List.map_cons, List.map_cons, List.append_assoc, hnat]
      rfl

/-- Storing bytes past the first word leaves the recorded length alone. -/
theorem mappedLen_store (pool : Pool) {va : VirtAddr} (len : Nat) (f : Nat → UInt8)
    (h : wordBytes.toNat ≤ pool.placeOf va) :
    (pool.store va len f).region.mappedLen = pool.region.mappedLen :=
  Memory.word_store _ _ _ _ _ (Or.inl (by rw [Nat.zero_add]; exact h))

/-- The addresses that a new pool enters in its free stack are the starts of its buffers. -/
theorem bufferAddrs_of_sound {g : Geometry} (h : g.Sound) {mapping : VirtAddr}
    (hfit : mapping.toNat + g.hugePages.toNat * hugePageSize.toNat < UInt64.size) :
    ∃ start slots, (mapping.add g.headerOffset : Outcome ε VirtAddr) = .ok start ∧
      start.toNat = mapping.toNat + g.headerOffset.toNat ∧
      (bufferAddrs start g.bufferSize #[] g.bufferCount.toNat : Outcome ε _) = .ok slots ∧
      slots.toList.map Address.toNat
        = (List.range g.bufferCount.toNat).map (g.bufferStart mapping.toNat) := by
  have hwhole := h.whole
  rw [toNat_hugePageSize] at hfit
  have hstart : (UInt64.ofNat (mapping.toNat + g.headerOffset.toNat)).toNat
      = mapping.toNat + g.headerOffset.toNat := UInt64.toNat_ofNat_of_lt' (by omega)
  let start : VirtAddr := ⟨UInt64.ofNat (mapping.toNat + g.headerOffset.toNat)⟩
  have hnat : start.toNat = mapping.toNat + g.headerOffset.toNat := hstart
  have hadd : mapping.add? g.headerOffset = some start := Address.add?_eq_some_iff.mpr hstart
  obtain ⟨slots, hslots, hlist⟩ := bufferAddrs_eq_ok (ε := ε) start h.stride_pos
    g.bufferCount.toNat #[] (by
      rw [hnat, Array.size_empty, Nat.zero_add, Nat.mul_comm]
      omega)
  refine ⟨start, slots, Outcome.orPanic_eq_ok_iff.mpr hadd, hnat, hslots, ?_⟩
  rw [hlist, Array.size_empty, ← List.range_eq_range', hnat]
  rfl

/-- What a pool is put together from: the start of its first buffer, the addresses of its buffers,
and the range that they fill. -/
theorem parts_of_sound {g : Geometry} (h : g.Sound) {payload : UInt64}
    (hpayload : payload.toNat = g.bufferSize.toNat * g.bufferCount.toNat) {mapping : VirtAddr}
    (hfit : mapping.toNat + g.hugePages.toNat * hugePageSize.toNat < UInt64.size) :
    ∃ start slots, ∃ hend : start.toNat + payload.toNat < UInt64.size,
      (mapping.add g.headerOffset : Outcome ε VirtAddr) = .ok start ∧
      start.toNat = mapping.toNat + g.headerOffset.toNat ∧
      (bufferAddrs start g.bufferSize #[] g.bufferCount.toNat : Outcome ε _) = .ok slots ∧
      (Range.ofLength start payload : Outcome ε _) = .ok ⟨start, payload, hend⟩ := by
  obtain ⟨start, slots, hstart, hnat, hslots, -⟩ := bufferAddrs_of_sound (ε := ε) h hfit
  have hend : start.toNat + payload.toNat < UInt64.size := by
    have hwhole := h.whole
    rw [toNat_hugePageSize] at hfit
    omega
  refine ⟨start, slots, hend, hstart, hnat, hslots, ?_⟩
  rw [Range.ofLength, Range.ofLength?, dif_pos hend, Outcome.orPanic_some]

end Pool

/-! ### The layout that is computed -/

/-- **Layout**: whenever a geometry is computed and its huge pages are mapped at a multiple of their
size, every buffer has the bytes asked for at the alignment asked for, shares none of them with
another buffer, stays in one huge page, and is clear of the recorded length, which no write into a
buffer changes. -/
theorem Geometry.buffers_placed {ε : Type} {size count alignment : UInt64} {g : Geometry}
    (h : Geometry.compute size count alignment = .ok g) (mapping : VirtAddr)
    (hmapping : hugePageSize.toNat ∣ mapping.toNat)
    (hfit : mapping.toNat + g.hugePages.toNat * hugePageSize.toNat < UInt64.size) :
    (∃ len, (g.mappedLen : Outcome ε UInt64) = .ok len ∧
      len.toNat = g.hugePages.toNat * hugePageSize.toNat) ∧
    g.alignment = alignment ∧ g.bufferCount = count ∧ size ≤ g.bufferSize ∧
    (∀ i < count.toNat, g.Placed mapping.toNat i) ∧
    (∃ start slots, (mapping.add g.headerOffset : Outcome ε VirtAddr) = .ok start ∧
      (Pool.bufferAddrs start g.bufferSize #[] count.toNat : Outcome ε _) = .ok slots ∧
      slots.toList.map Address.toNat
        = (List.range count.toNat).map (g.bufferStart mapping.toNat)) ∧
    (∀ pool : Pool, pool.region.mapping = mapping → ∀ i < count.toNat,
      ∀ (va : VirtAddr) (len : Nat) (f : Nat → UInt8),
        g.bufferStart mapping.toNat i ≤ va.toNat →
        va.toNat + len ≤ g.bufferStart mapping.toNat i + g.bufferSize.toNat →
        (pool.store va len f).region.mappedLen = pool.region.mappedLen) := by
  obtain ⟨rfl, rfl, hsize, hsound⟩ := Geometry.compute_eq_ok h
  refine ⟨hsound.mappedLen_eq_ok, rfl, rfl, UInt64.le_iff_toNat_le.mpr hsize,
    fun i hi => hsound.placed hmapping hi, ?_, ?_⟩
  · obtain ⟨start, slots, hstart, -, hslots, hlist⟩ :=
      Pool.bufferAddrs_of_sound (ε := ε) hsound hfit
    exact ⟨start, slots, hstart, hslots, hlist⟩
  · -- a write into a buffer starts past the header, and so past the first word
    rintro pool rfl i - va len f hva -
    rw [Geometry.bufferStart] at hva
    have hheader := hsound.header_ge
    have hword : wordBytes.toNat = 8 := rfl
    have hle : pool.region.mapping.word ≤ va.word := by
      rw [UInt64.le_iff_toNat_le]
      show pool.region.mapping.toNat ≤ va.toNat
      omega
    have hplace : pool.placeOf va = va.toNat - pool.region.mapping.toNat :=
      UInt64.toNat_sub_of_le _ _ hle
    apply Pool.mappedLen_store
    omega

/-- Buffers of three base pages do not fit next to a small header, so they are placed 16 KiB apart
in three huge pages. -/
theorem Geometry.buffers_placed_spread :
    Geometry.compute 12288 300 4096 = .ok ⟨16384, 300, 4096, 16384, 3⟩ ∧
    ∀ i < 300, Geometry.Placed ⟨16384, 300, 4096, 16384, 3⟩ 2097152 i := by
  have h : Geometry.compute 12288 300 4096 = .ok ⟨16384, 300, 4096, 16384, 3⟩ := by decide
  exact ⟨h, (Geometry.buffers_placed (ε := Empty) h ⟨2097152⟩ (by decide) (by decide)).2.2.2.2.1⟩

end HugePool
