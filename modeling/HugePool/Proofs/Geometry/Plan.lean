import HugePool.Proofs.Geometry.Exact

/-!
# Requests compared

`Geometry.Plan` tells what a request comes to in unbounded arithmetic: the distance between buffers,
the length of the header and the length of all huge pages, in one of the two layouts.  Every request
that breaks no rule has a plan, and gets the geometry of the plan as long as its length is a word
(`Geometry.compute_of_plan`, `Geometry.plan_of_compute`).

What is to be said about several requests can then be said about their plans:

* `Plan.again`: the distance that was found is one that a plan leaves alone.  It stays a multiple of
  the alignment when it grows to a power of two, and buffers that did not fit in one huge page do
  not fit when they are farther apart.
* `Plan.mono`: a plan for less is a smaller plan.  From the close layout to the spread one all
  numbers grow, and the other way round there is nothing to compare: what fits for more fits for
  less.
* `Geometry.compute_fixed_and_monotone`: hence the same of the geometries.
-/

namespace HugePool.Geometry

/-- What `count` buffers of `size` bytes at multiples of `alignment` come to: the distance between
buffers, the length of the header and the length of all huge pages. -/
inductive Plan (size count alignment : Nat) : Nat → Nat → Nat → Prop where
  /-- The buffers stay close together in one huge page. -/
  | close {s : Nat} (rounded : IsLeast (Word.multiplesFrom alignment size) s)
      (fits : 4096 + s * count ≤ 2097152) : Plan size count alignment s 4096 2097152
  /-- The buffers are spread out, at a distance that is a power of two. -/
  | spread {s p total : Nat} (rounded : IsLeast (Word.multiplesFrom alignment size) s)
      (wide : ¬ 4096 + s * count ≤ 2097152) (power : IsLeast (Word.powersFrom s) p)
      (whole : IsLeast (Word.multiplesFrom 2097152 (p * count + max p 4096)) total) :
      Plan size count alignment p (max p 4096) total

/-! ### Plans -/

section

variable {size count alignment stride header total : Nat}

theorem exists_plan (halign : 0 < alignment) (size count : Nat) :
    ∃ stride header total, Plan size count alignment stride header total := by
  obtain ⟨s, hs⟩ := Word.exists_isLeast_multiplesFrom halign size
  by_cases hfits : 4096 + s * count ≤ 2097152
  · exact ⟨_, _, _, .close hs hfits⟩
  · obtain ⟨p, hp⟩ := Word.exists_isLeast_powersFrom s
    obtain ⟨total, htotal⟩ := Word.exists_isLeast_multiplesFrom (a := 2097152) (by omega)
      (p * count + max p 4096)
    exact ⟨_, _, _, .spread hs hfits hp htotal⟩

theorem Plan.dvd_total (h : Plan size count alignment stride header total) : 2097152 ∣ total := by
  cases h with
  | close _ _ => exact dvd_rfl
  | spread _ _ _ whole => exact whole.1.1

/-- There is at least one huge page. -/
theorem Plan.page_le_total (h : Plan size count alignment stride header total) :
    2097152 ≤ total := by
  cases h with
  | close _ _ => exact le_rfl
  | spread _ _ _ whole =>
    have hle := whole.1.2
    exact Nat.le_of_dvd (by omega) whole.1.1

/-- A request for the distance that was found has the same plan. -/
theorem Plan.again (h : Plan size count alignment stride header total) (hsize : 0 < size)
    (halign : alignment.isPowerOfTwo) : Plan stride count alignment stride header total := by
  cases h with
  | close rounded fits => exact .close (Word.isLeast_multiplesFrom_self rounded.1.1) fits
  | @spread s _ _ rounded wide power whole =>
    have hsize_le : size ≤ s := rounded.1.2
    have hle : s ≤ stride := power.1.2
    -- the alignment is not larger than what it divides, and both are powers of two
    have halign_le : alignment ≤ s := Nat.le_of_dvd (by omega) rounded.1.1
    have hdvd : alignment ∣ stride :=
      Word.dvd_of_isPowerOfTwo_of_le halign power.1.1 (halign_le.trans hle)
    have hmul : s * count ≤ stride * count := Nat.mul_le_mul_right count hle
    exact .spread (Word.isLeast_multiplesFrom_self hdvd) (by omega)
      (Word.isLeast_powersFrom_self power.1.1) whole

/-- A plan for less is a smaller plan. -/
theorem Plan.mono {size' count' alignment' stride' header' total' : Nat}
    (h : Plan size count alignment stride header total)
    (h' : Plan size' count' alignment' stride' header' total') (hsize : size ≤ size')
    (hcount : count ≤ count') (halign : alignment ∣ alignment') :
    stride ≤ stride' ∧ header ≤ header' ∧ total ≤ total' := by
  have hsubset := Word.multiplesFrom_subset halign hsize
  have htotal := h'.page_le_total
  cases h with
  | close rounded fits =>
    cases h' with
    | close rounded' _ => exact ⟨rounded'.mono rounded hsubset, le_rfl, htotal⟩
    | spread rounded' _ power' _ =>
      have hs := rounded'.mono rounded hsubset
      exact ⟨hs.trans power'.1.2, Nat.le_max_right _ _, htotal⟩
  | @spread s _ _ rounded wide power whole =>
    cases h' with
    | close rounded' fits' =>
      have hs : s ≤ stride' := rounded'.mono rounded hsubset
      have hmul : s * count ≤ stride' * count' := Nat.mul_le_mul hs hcount
      omega
    | @spread s' _ _ rounded' _ power' whole' =>
      have hs : s ≤ s' := rounded'.mono rounded hsubset
      have hstride : stride ≤ stride' := power'.mono power (Word.powersFrom_subset hs)
      have hheader : max stride 4096 ≤ max stride' 4096 :=
        Nat.max_le.mpr ⟨hstride.trans (Nat.le_max_left _ _), Nat.le_max_right _ _⟩
      have hneeded : stride * count + max stride 4096 ≤ stride' * count' + max stride' 4096 :=
        Nat.add_le_add (Nat.mul_le_mul hstride hcount) hheader
      exact ⟨hstride, hheader, whole'.mono whole (Word.multiplesFrom_subset dvd_rfl hneeded)⟩

end

/-! ### Geometries of plans -/

/-- A request that breaks no rule gets the geometry of its plan, if the length is a word. -/
theorem compute_of_plan {c : Config} (h : Legal c.bufferSize c.bufferCount c.alignment)
    {stride header total : Nat}
    (hplan : Plan c.bufferSize.toNat c.bufferCount.toNat c.alignment.toNat stride header total) :
    if total < UInt64.size then
      ∃ g, compute c.bufferSize c.bufferCount c.alignment = .ok g ∧
        g.Reads c stride header (total / 2097152)
    else compute c.bufferSize c.bufferCount c.alignment = .error .geometryOverflow := by
  rw [compute_of_legal h]
  cases hplan with
  | close rounded fits =>
    rw [if_pos (by decide)]
    exact place_of_fits h rounded fits
  | spread rounded wide power whole =>
    have hplaced := place_of_not_fits h rounded power whole wide
    split_ifs at hplaced ⊢
    · obtain ⟨g, hplace, hg, -⟩ := hplaced
      exact ⟨g, hplace, hg⟩
    · exact hplaced

/-- A geometry that was computed is that of any plan for its request. -/
theorem reads_of_plan {c : Config} {g : Geometry}
    (h : compute c.bufferSize c.bufferCount c.alignment = .ok g) {stride header total : Nat}
    (hplan : Plan c.bufferSize.toNat c.bufferCount.toNat c.alignment.toNat stride header total) :
    g.Reads c stride header (total / 2097152) := by
  have hcompute := compute_of_plan (compute_eq_ok_iff.mp h).1 hplan
  split_ifs at hcompute
  · obtain ⟨g', hg', hreads⟩ := hcompute
    obtain rfl := Outcome.ok.inj (h.symm.trans hg')
    exact hreads
  · exact absurd (h.symm.trans hcompute) (by simp)

/-- Two geometries that read the same are one. -/
theorem Reads.unique {g g' : Geometry} {c : Config} {stride header pages : Nat}
    (h : g.Reads c stride header pages) (h' : g'.Reads c stride header pages) : g = g' := by
  have hsize := UInt64.toNat_inj.mp (h.bufferSize.trans h'.bufferSize.symm)
  have hcount := h.bufferCount.trans h'.bufferCount.symm
  have halign := h.alignment.trans h'.alignment.symm
  have hheader := UInt64.toNat_inj.mp (h.headerOffset.trans h'.headerOffset.symm)
  have hpages := UInt64.toNat_inj.mp (h.hugePages.trans h'.hugePages.symm)
  cases g
  cases g'
  simp_all

/-- The request with some numbers, under no name. -/
def request (size count alignment : UInt64) : Config :=
  { name := "", bufferSize := size, bufferCount := count, alignment := alignment }

/-- A geometry is that of the plan for its request. -/
theorem plan_of_compute {size count alignment : UInt64} {g : Geometry}
    (h : compute size count alignment = .ok g) :
    Legal size count alignment ∧
    Plan size.toNat count.toNat alignment.toNat g.bufferSize.toNat g.headerOffset.toNat
      (g.hugePages.toNat * 2097152) := by
  obtain ⟨hlegal, -⟩ := compute_eq_ok_iff.mp h
  obtain ⟨stride, header, total, hplan⟩ :=
    exists_plan hlegal.alignment_isPowerOfTwo.pos size.toNat count.toNat
  have hreads := reads_of_plan (c := request size count alignment) h hplan
  refine ⟨hlegal, ?_⟩
  rw [hreads.bufferSize, hreads.headerOffset, hreads.hugePages, Nat.div_mul_cancel hplan.dvd_total]
  exact hplan

/-- A geometry is what a request for its own numbers gets. -/
theorem compute_again {size count alignment : UInt64} {g : Geometry}
    (h : compute size count alignment = .ok g) :
    compute g.bufferSize g.bufferCount g.alignment = .ok g := by
  obtain ⟨hlegal, hplan⟩ := plan_of_compute h
  obtain ⟨rfl, rfl, -, hsound⟩ := compute_eq_ok h
  have hlegal' : Legal g.bufferSize g.bufferCount g.alignment :=
    { hlegal with size_pos := hsound.stride_pos, size_le := hsound.stride_le }
  have hplan' := hplan.again hlegal.size_pos hlegal.alignment_isPowerOfTwo
  have hcompute := compute_of_plan (c := request g.bufferSize g.bufferCount g.alignment)
    hlegal' hplan'
  rw [if_pos hsound.fits, Nat.mul_div_cancel _ (by omega)] at hcompute
  obtain ⟨g', hg', hreads⟩ := hcompute
  obtain rfl : g = g' := Reads.unique ⟨rfl, rfl, rfl, rfl, rfl⟩ hreads
  exact hg'

/-- A request for less than a legal one is legal, unless it asks for nothing. -/
theorem Legal.of_le {size size' count count' alignment alignment' : UInt64}
    (h : Legal size' count' alignment') (hsize : size ≤ size') (halign : alignment ≤ alignment')
    (hsize_ne : size ≠ 0) (hcount_ne : count ≠ 0) (hpow : Word.IsPowerOfTwo alignment) :
    Legal size count alignment where
  alignment_isPowerOfTwo := hpow
  alignment_le := (UInt64.le_iff_toNat_le.mp halign).trans h.alignment_le
  size_pos := Nat.pos_of_ne_zero fun hzero => hsize_ne (UInt64.toNat_inj.mp hzero)
  size_le := (UInt64.le_iff_toNat_le.mp hsize).trans h.size_le
  count_pos := Nat.pos_of_ne_zero fun hzero => hcount_ne (UInt64.toNat_inj.mp hzero)

/-- A request for less is granted if the one for more is, and gets a smaller geometry. -/
theorem compute_mono {size size' count count' alignment alignment' : UInt64} {g' : Geometry}
    (hsize : size ≤ size') (hcount : count ≤ count') (halign : alignment ≤ alignment')
    (h' : compute size' count' alignment' = .ok g') (hlegal : Legal size count alignment) :
    ∃ g, compute size count alignment = .ok g ∧ g.bufferSize ≤ g'.bufferSize ∧
      g.headerOffset ≤ g'.headerOffset ∧ g.hugePages ≤ g'.hugePages := by
  obtain ⟨hlegal', hplan'⟩ := plan_of_compute h'
  obtain ⟨-, -, -, hsound'⟩ := compute_eq_ok h'
  obtain ⟨stride, header, total, hplan⟩ :=
    exists_plan hlegal.alignment_isPowerOfTwo.pos size.toNat count.toNat
  have hdvd : alignment.toNat ∣ alignment'.toNat :=
    hlegal.alignment_isPowerOfTwo.dvd_of_le hlegal'.alignment_isPowerOfTwo
      (UInt64.le_iff_toNat_le.mp halign)
  obtain ⟨hstride, hheader, htotal⟩ := hplan.mono hplan' (UInt64.le_iff_toNat_le.mp hsize)
    (UInt64.le_iff_toNat_le.mp hcount) hdvd
  have hcompute := compute_of_plan (c := request size count alignment) hlegal hplan
  rw [if_pos (Nat.lt_of_le_of_lt htotal hsound'.fits)] at hcompute
  obtain ⟨g, hg, hreads⟩ := hcompute
  refine ⟨g, hg, ?_⟩
  simp only [UInt64.le_iff_toNat_le, hreads.bufferSize, hreads.headerOffset, hreads.hugePages]
  exact ⟨hstride, hheader, by omega⟩

/-- **Requests compared**: a geometry is what a request for its own numbers gets, also as part of a
request for a pool.  Of two requests the one that asks for no more is granted if the other one is,
unless it asks for nothing or for an alignment that is none, and its distance, its header and its
number of huge pages are at most those of the other one. -/
theorem compute_fixed_and_monotone :
    (∀ (size count alignment : UInt64) (g : Geometry), compute size count alignment = .ok g →
      compute g.bufferSize g.bufferCount g.alignment = .ok g) ∧
    (∀ (c : Config) (g : Geometry), c.geometry = .ok g →
      Config.geometry { c with
        bufferSize := g.bufferSize, bufferCount := g.bufferCount, alignment := g.alignment }
        = .ok g) ∧
    ∀ (size size' count count' alignment alignment' : UInt64) (g' : Geometry),
      size ≤ size' → count ≤ count' → alignment ≤ alignment' →
      compute size' count' alignment' = .ok g' →
      size ≠ 0 → count ≠ 0 → Word.IsPowerOfTwo alignment →
      ∃ g, compute size count alignment = .ok g ∧ g.bufferSize ≤ g'.bufferSize ∧
        g.headerOffset ≤ g'.headerOffset ∧ g.hugePages ≤ g'.hugePages := by
  refine ⟨fun size count alignment g => compute_again, ?_, ?_⟩
  · intro c g h
    unfold Config.geometry at h ⊢
    split_ifs at h ⊢
    exact compute_again h
  · intro size size' count count' alignment alignment' g' hsize hcount halign h' hne hne' hpow
    have hlegal' := (compute_eq_ok_iff.mp h').1
    exact compute_mono hsize hcount halign h' (hlegal'.of_le hsize halign hne hne' hpow)

/-- Buffers that fit in one huge page against more and larger ones that do not. -/
theorem compute_fixed_and_monotone_second_page :
    compute 16384 200 4096 = .ok ⟨16384, 200, 4096, 16384, 2⟩ ∧
    Config.geometry { name := "rx", bufferSize := 16384, bufferCount := 200, alignment := 4096 }
      = .ok ⟨16384, 200, 4096, 16384, 2⟩ ∧
    ∃ g, compute 12000 150 64 = .ok g ∧ g.bufferSize ≤ 16384 ∧ g.headerOffset ≤ 16384 ∧
      g.hugePages ≤ 2 := by
  obtain ⟨hagain, hconfig, hmono⟩ := compute_fixed_and_monotone
  have hlarge : compute 12288 200 4096 = .ok ⟨16384, 200, 4096, 16384, 2⟩ := by decide
  have hnamed : Config.geometry
      { name := "rx", bufferSize := 12288, bufferCount := 200, alignment := 4096 }
      = .ok ⟨16384, 200, 4096, 16384, 2⟩ := by decide
  refine ⟨hagain 12288 200 4096 _ hlarge, hconfig _ _ hnamed, ?_⟩
  exact hmono 12000 12288 150 200 64 4096 _ (by decide) (by decide) (by decide) hlarge (by decide)
    (by decide) ⟨6, rfl⟩

end HugePool.Geometry
