import HugePool.Geometry
import HugePool.Proofs.Word.Rounding
import Mathlib.Data.Nat.Init

/-!
# Sound geometries

`Geometry.Sound` collects what the arithmetic of `Geometry.compute` guarantees about the geometry
that it answers with, read in `Nat` (`compute_eq_ok`):

* the alignment divides the distance between buffers, the header and the huge page;
* header and buffers fill the huge pages, with less than one huge page left over, and the length of
  the huge pages is a word;
* there is one huge page only, or the distance divides the header and the huge page.

The last point is where the two layouts differ.  In the first one nothing relates the distance to
the huge page, and no buffer crosses from one page into the next because there is no next page.
-/

namespace HugePool.Geometry

variable {ε : Type}

/-- A request that breaks no rule. -/
structure Legal (size count alignment : UInt64) : Prop where
  alignment_isPowerOfTwo : Word.IsPowerOfTwo alignment
  alignment_le : alignment.toNat ≤ 4096
  size_pos : 0 < size.toNat
  size_le : size.toNat ≤ 2097152
  count_pos : 0 < count.toNat

/-- What holds of every geometry that was computed. -/
structure Sound (g : Geometry) : Prop where
  count_pos : 0 < g.bufferCount.toNat
  stride_pos : 0 < g.bufferSize.toNat
  stride_le : g.bufferSize.toNat ≤ 2097152
  alignment_dvd_stride : g.alignment.toNat ∣ g.bufferSize.toNat
  alignment_dvd_header : g.alignment.toNat ∣ g.headerOffset.toNat
  alignment_dvd_page : g.alignment.toNat ∣ 2097152
  header_ge : 4096 ≤ g.headerOffset.toNat
  /-- Header and buffers lie in the huge pages. -/
  whole : g.headerOffset.toNat + g.bufferSize.toNat * g.bufferCount.toNat
    ≤ g.hugePages.toNat * 2097152
  /-- The last huge page is used. -/
  tight : g.hugePages.toNat * 2097152
    < g.headerOffset.toNat + g.bufferSize.toNat * g.bufferCount.toNat + 2097152
  fits : g.hugePages.toNat * 2097152 < UInt64.size
  /-- No buffer crosses from one huge page into the next. -/
  contained : g.hugePages.toNat = 1 ∨
    (g.bufferSize.toNat ∣ g.headerOffset.toNat ∧ g.bufferSize.toNat ∣ 2097152)

/-! ### The checks -/

theorem isPowerOfTwo_hugePageSize : Word.IsPowerOfTwo hugePageSize := ⟨21, rfl⟩

theorem isPowerOfTwo_headerSize : Word.IsPowerOfTwo headerSize := ⟨12, rfl⟩

/-- A request that breaks no rule is placed. -/
theorem compute_of_legal {size count alignment : UInt64} (h : Legal size count alignment) :
    compute size count alignment = place size count alignment := by
  have hsize : size ≠ 0 := by
    rintro rfl
    exact absurd h.size_pos (by decide)
  have hcount : count ≠ 0 := by
    rintro rfl
    exact absurd h.count_pos (by decide)
  rw [compute, if_neg (not_not.mpr h.alignment_isPowerOfTwo),
    if_neg (UInt64.not_lt.mpr (UInt64.le_iff_toNat_le.mpr h.alignment_le)), if_neg hsize,
    if_neg (UInt64.not_lt.mpr (UInt64.le_iff_toNat_le.mpr h.size_le)), if_neg hcount]

theorem compute_eq_ok_iff {size count alignment : UInt64} {g : Geometry} :
    compute size count alignment = .ok g ↔
      Legal size count alignment ∧ place size count alignment = .ok g := by
  constructor
  · intro h
    have hlegal : Legal size count alignment := by
      unfold compute at h
      by_cases hpow : Word.IsPowerOfTwo alignment
      case neg => rw [if_pos hpow] at h; cases h
      rw [if_neg (not_not.mpr hpow)] at h
      by_cases halign : maxAlignment < alignment
      case pos => rw [if_pos halign] at h; cases h
      rw [if_neg halign] at h
      by_cases hsize : size = 0
      case pos => rw [if_pos hsize] at h; cases h
      rw [if_neg hsize] at h
      by_cases hlarge : hugePageSize < size
      case pos => rw [if_pos hlarge] at h; cases h
      rw [if_neg hlarge] at h
      by_cases hcount : count = 0
      case pos => rw [if_pos hcount] at h; cases h
      refine ⟨hpow, UInt64.le_iff_toNat_le.mp (UInt64.not_lt.mp halign), ?_,
        UInt64.le_iff_toNat_le.mp (UInt64.not_lt.mp hlarge), ?_⟩
      · exact Nat.pos_of_ne_zero fun hz => hsize (UInt64.toNat_inj.mp hz)
      · exact Nat.pos_of_ne_zero fun hz => hcount (UInt64.toNat_inj.mp hz)
    exact ⟨hlegal, compute_of_legal hlegal ▸ h⟩
  · rintro ⟨hlegal, h⟩
    rw [compute_of_legal hlegal, h]

theorem fitsOnePage_iff {stride count : UInt64} :
    fitsOnePage stride count = true ↔ stride.toNat * count.toNat + 4096 ≤ 2097152 := by
  unfold fitsOnePage
  cases h : (Word.mul? stride count).bind (Word.add? · headerSize) with
  | none =>
    simp only [Bool.false_eq_true, false_iff, Nat.not_le]
    rw [Option.bind_eq_none_iff] at h
    cases hmul : Word.mul? stride count with
    | none =>
      have := Word.mul?_eq_none_iff.mp hmul
      simp only [UInt64.size] at this
      omega
    | some payload =>
      have hadd := Word.add?_eq_none_iff.mp (h payload hmul)
      rw [Word.mul?_eq_some_iff.mp hmul, toNat_headerSize, UInt64.size] at hadd
      omega
  | some total =>
    obtain ⟨payload, hmul, hadd⟩ := Option.bind_eq_some_iff.mp h
    have htotal := Word.add?_eq_some_iff.mp hadd
    rw [Word.mul?_eq_some_iff.mp hmul, toNat_headerSize] at htotal
    simp only [decide_eq_true_eq, UInt64.le_iff_toNat_le, toNat_hugePageSize, htotal]

/-! ### The two layouts -/

/-- What `spacing` guarantees of a distance and a header, for buffers of `aligned` bytes. -/
structure Spaced (aligned count stride header : UInt64) : Prop where
  aligned_le : aligned.toNat ≤ stride.toNat
  /-- In the one layout the distance is left alone, in the other it is a power of two. -/
  layout : (stride = aligned ∧ header.toNat = 4096 ∧
      stride.toNat * count.toNat + 4096 ≤ 2097152) ∨
    (Word.IsPowerOfTwo stride ∧ Word.IsPowerOfTwo header ∧ stride.toNat ∣ 2097152 ∧
      stride.toNat ∣ header.toNat ∧ 4096 ≤ header.toNat)

theorem spaced_of_spacing {aligned count stride header : UInt64}
    (hle : aligned.toNat ≤ 2097152)
    (h : (spacing aligned count : Outcome ε _) = .ok (stride, header)) :
    Spaced aligned count stride header := by
  unfold spacing at h
  split_ifs at h with hfits
  · obtain ⟨rfl, rfl⟩ := Prod.mk.inj (Outcome.ok.inj h)
    exact ⟨le_rfl, Or.inl ⟨rfl, rfl, fitsOnePage_iff.mp hfits⟩⟩
  · obtain ⟨p, hp, h⟩ := Outcome.bind_eq_ok_iff.mp h
    obtain ⟨rfl, rfl⟩ := Prod.mk.inj (Outcome.ok.inj h)
    have hnext := Outcome.orPanic_eq_ok_iff.mp hp
    have hpow := Word.isPowerOfTwo_of_nextPowerOfTwo? hnext
    have hpage : p.toNat ∣ 2097152 :=
      Word.nextPowerOfTwo?_dvd hnext isPowerOfTwo_hugePageSize (UInt64.le_iff_toNat_le.mpr hle)
    refine ⟨Word.le_nextPowerOfTwo? hnext, Or.inr ?_⟩
    rcases Nat.le_total p.toNat headerSize.toNat with hsmall | hlarge
    · -- the header stays at 4 KiB, a multiple of the smaller power of two
      have hmax : max p headerSize = headerSize := by
        rw [UInt64.max_def, if_pos (UInt64.le_iff_toNat_le.mpr hsmall)]
      rw [hmax]
      exact ⟨hpow, isPowerOfTwo_headerSize, hpage,
        hpow.dvd_of_le isPowerOfTwo_headerSize hsmall, le_rfl⟩
    · have hmax : max p headerSize = p := by
        rw [UInt64.max_def]
        split_ifs with hle'
        · exact UInt64.toNat_inj.mp (Nat.le_antisymm hlarge (UInt64.le_iff_toNat_le.mp hle'))
        · rfl
      rw [hmax]
      exact ⟨hpow, hpow, hpage, dvd_rfl, hlarge⟩

/-! ### Placing the buffers -/

/-- The steps of `place`, each with its result. -/
theorem place_eq_ok {size count alignment : UInt64} {g : Geometry}
    (h : place size count alignment = .ok g) :
    ∃ aligned total len : UInt64,
      Word.alignUp? size alignment = some aligned ∧
      (spacing aligned count : Outcome CreateError _) = .ok (g.bufferSize, g.headerOffset) ∧
      total.toNat = g.bufferSize.toNat * count.toNat + g.headerOffset.toNat ∧
      Word.alignUp? total hugePageSize = some len ∧
      g.bufferCount = count ∧ g.alignment = alignment ∧ g.hugePages = len / hugePageSize := by
  simp only [place, Word.alignUp, Outcome.bind_eq_ok_iff, Outcome.ofOption_eq_ok_iff,
    Outcome.require_eq_ok_iff, Outcome.pure_eq, Outcome.ok.injEq, Option.bind_eq_some_iff] at h
  obtain ⟨_, ⟨_, -, rfl⟩, aligned, haligned, ⟨stride, header⟩, hspacing, total,
    ⟨payload, hmul, hadd⟩, _, ⟨_, -, rfl⟩, len, hlen, rfl⟩ := h
  refine ⟨aligned, total, len, haligned, hspacing, ?_, hlen, rfl, rfl, rfl⟩
  rw [Word.add?_eq_some_iff.mp hadd, Word.mul?_eq_some_iff.mp hmul]

/-- A computed geometry is sound, and gives each buffer at least the bytes asked for. -/
theorem compute_eq_ok {size count alignment : UInt64} {g : Geometry}
    (h : compute size count alignment = .ok g) :
    g.bufferCount = count ∧ g.alignment = alignment ∧ size.toNat ≤ g.bufferSize.toNat ∧
      g.Sound := by
  obtain ⟨hlegal, hplace⟩ := compute_eq_ok_iff.mp h
  obtain ⟨aligned, total, len, haligned, hspacing, htotal, hlen, rfl, rfl, hpages⟩ :=
    place_eq_ok hplace
  have hpow := hlegal.alignment_isPowerOfTwo
  have hpage : g.alignment.toNat ∣ 2097152 :=
    hpow.dvd_of_le isPowerOfTwo_hugePageSize (by
      have := hlegal.alignment_le
      rw [toNat_hugePageSize]
      omega)
  obtain ⟨haligned_dvd, hsize, -⟩ := (Word.alignUp?_eq_some_iff hpow).mp haligned
  -- the huge page is itself a multiple of the alignment that is large enough
  have haligned_le : aligned.toNat ≤ 2097152 := Word.alignUp?_le hpow haligned hpage hlegal.size_le
  have hspaced := spaced_of_spacing haligned_le hspacing
  have hstride := hspaced.aligned_le
  obtain ⟨hlen_dvd, hlen_ge, hlen_lt⟩ :=
    (Word.alignUp?_eq_some_iff isPowerOfTwo_hugePageSize).mp hlen
  rw [toNat_hugePageSize, htotal] at hlen_lt
  rw [htotal] at hlen_ge
  have hmul : g.hugePages.toNat * 2097152 = len.toNat := by
    rw [hpages, UInt64.toNat_div, toNat_hugePageSize]
    exact Nat.div_mul_cancel hlen_dvd
  have hsize_pos := hlegal.size_pos
  have hlen_fits := len.toNat_lt_size
  refine ⟨rfl, rfl, by omega, ?_⟩
  rcases hspaced.layout with ⟨hsame, hheader, hone⟩ | ⟨hpow', hheader_pow, hdvd, hdvd_header, hge⟩
  · -- close together in one huge page
    have hlen_one : len.toNat = 2097152 := by
      obtain ⟨c, hc⟩ := hlen_dvd
      rw [toNat_hugePageSize] at hc
      omega
    have halign_le := hlegal.alignment_le
    exact {
      count_pos := hlegal.count_pos
      stride_pos := by omega
      stride_le := by rw [hsame]; exact haligned_le
      alignment_dvd_stride := by rw [hsame]; exact haligned_dvd
      alignment_dvd_header := by
        rw [hheader]
        exact hpow.dvd_of_le isPowerOfTwo_headerSize halign_le
      alignment_dvd_page := hpage
      header_ge := by omega
      whole := by omega
      tight := by omega
      fits := by omega
      contained := Or.inl (by omega) }
  · -- the distance is a power of two, and so is the header
    have halign_le : g.alignment.toNat ≤ g.bufferSize.toNat :=
      (Nat.le_of_dvd (by omega) haligned_dvd).trans hstride
    have hdvd_stride := hpow.dvd_of_le hpow' halign_le
    exact {
      count_pos := hlegal.count_pos
      stride_pos := hpow'.pos
      stride_le := Nat.le_of_dvd (by decide) hdvd
      alignment_dvd_stride := hdvd_stride
      alignment_dvd_header := hdvd_stride.trans hdvd_header
      alignment_dvd_page := hpage
      header_ge := hge
      whole := by omega
      tight := by omega
      fits := by omega
      contained := Or.inr ⟨hdvd_header, hdvd⟩ }

/-! ### Settled answers -/

theorem spacing_settled {aligned : UInt64} (hle : aligned.toNat ≤ 2097152) (count : UInt64) :
    (spacing aligned count : Outcome ε _).Settled := by
  unfold spacing
  split_ifs
  · trivial
  · have hlog : Word.ceilLog2 aligned.toNat ≤ 21 := Word.ceilLog2_le hle
    have hlt : 1 <<< Word.ceilLog2 aligned.toNat < UInt64.size := by
      rw [Nat.one_shiftLeft]
      exact Nat.lt_of_le_of_lt (Nat.pow_le_pow_right Nat.two_pos hlog) (by decide)
    have hnext : Word.nextPowerOfTwo? aligned
        = some (UInt64.ofNat (1 <<< Word.ceilLog2 aligned.toNat)) := by
      rw [Word.nextPowerOfTwo?, if_pos hlt]
    rw [Word.nextPowerOfTwo, hnext]
    trivial

theorem place_settled {size count alignment : UInt64} (hpow : Word.IsPowerOfTwo alignment)
    (halign : alignment.toNat ≤ 4096) (hsize : size.toNat ≤ 2097152) :
    (place size count alignment).Settled := by
  have hpage : alignment.toNat ∣ 2097152 :=
    hpow.dvd_of_le isPowerOfTwo_hugePageSize (halign.trans (by decide))
  rw [place, Word.alignUp_of_isPowerOfTwo hpow, Outcome.ok_bind]
  refine (Outcome.settled_ofOption _ _).bind fun aligned haligned => ?_
  have hle := Word.alignUp?_le hpow (Outcome.ofOption_eq_ok_iff.mp haligned) hpage hsize
  refine (spacing_settled hle count).bind fun ⟨stride, header⟩ _ => ?_
  refine (Outcome.settled_ofOption _ _).bind fun total _ => ?_
  rw [Word.alignUp_of_isPowerOfTwo isPowerOfTwo_hugePageSize, Outcome.ok_bind]
  -- whether there is a length does not matter
  generalize Word.alignUp? total hugePageSize = len
  exact (Outcome.settled_ofOption len _).bind fun _ _ => trivial

/-- A request that breaks no rule is refused only for its size. -/
theorem place_eq_error {size count alignment : UInt64} {cause : CreateError}
    (h : place size count alignment = .error cause) : cause = .geometryOverflow := by
  have hround : ∀ value align : UInt64,
      (Word.alignUp value align : Outcome CreateError _) ≠ .error cause := by
    intro value align
    unfold Word.alignUp Outcome.require
    split <;> exact nofun
  have hspacing : ∀ aligned, (spacing aligned count : Outcome CreateError _) ≠ .error cause := by
    intro aligned
    unfold spacing Word.nextPowerOfTwo
    split
    · exact nofun
    · cases Word.nextPowerOfTwo? aligned <;> exact nofun
  have hoption : ∀ o : Option UInt64,
      Outcome.ofOption o CreateError.geometryOverflow = .error cause →
      cause = .geometryOverflow := by
    intro o h
    cases o <;> cases h
    rfl
  obtain h | ⟨rounded, -, h⟩ := Outcome.error_of_bind h
  · exact (hround _ _ h).elim
  obtain h | ⟨aligned, -, h⟩ := Outcome.error_of_bind h
  · exact hoption _ h
  obtain h | ⟨⟨stride, header⟩, -, h⟩ := Outcome.error_of_bind h
  · exact (hspacing _ h).elim
  obtain h | ⟨total, -, h⟩ := Outcome.error_of_bind h
  · exact hoption _ h
  obtain h | ⟨rounded, -, h⟩ := Outcome.error_of_bind h
  · exact (hround _ _ h).elim
  obtain h | ⟨len, -, h⟩ := Outcome.error_of_bind h
  · exact hoption _ h
  · cases h

/-- A geometry is computed or refused, but computing it never panics. -/
theorem compute_settled (size count alignment : UInt64) :
    (compute size count alignment).Settled := by
  unfold compute
  split_ifs with hpow halign _ hsize _
  case neg =>
    exact place_settled hpow (UInt64.le_iff_toNat_le.mp (UInt64.not_lt.mp halign))
      (UInt64.le_iff_toNat_le.mp (UInt64.not_lt.mp hsize))
  all_goals trivial

/-! ### Lengths -/

variable {g : Geometry}

theorem Sound.hugePages_pos (h : g.Sound) : 0 < g.hugePages.toNat := by
  have hwhole := h.whole
  have hheader := h.header_ge
  omega

/-- The header has room for the word that records a length. -/
theorem Sound.wordBytes_le (h : g.Sound) : wordBytes ≤ g.headerOffset :=
  UInt64.le_iff_toNat_le.mpr (Nat.le_trans (by decide) h.header_ge)

theorem Sound.payloadLen_eq_ok (h : g.Sound) :
    ∃ payload, (g.payloadLen : Outcome ε UInt64) = .ok payload ∧
      payload.toNat = g.bufferSize.toNat * g.bufferCount.toNat := by
  have hwhole := h.whole
  have hfits := h.fits
  have hlt : g.bufferSize.toNat * g.bufferCount.toNat < UInt64.size := by omega
  have hmul := Word.mul?_eq_some_iff.mpr (UInt64.toNat_ofNat_of_lt' hlt)
  exact ⟨_, Outcome.orPanic_eq_ok_iff.mpr hmul, UInt64.toNat_ofNat_of_lt' hlt⟩

theorem Sound.mappedLen_eq_ok (h : g.Sound) :
    ∃ len, (g.mappedLen : Outcome ε UInt64) = .ok len ∧
      len.toNat = g.hugePages.toNat * hugePageSize.toNat := by
  have hfits : g.hugePages.toNat * hugePageSize.toNat < UInt64.size := h.fits
  have hmul := Word.mul?_eq_some_iff.mpr (UInt64.toNat_ofNat_of_lt' hfits)
  exact ⟨_, Outcome.orPanic_eq_ok_iff.mpr hmul, UInt64.toNat_ofNat_of_lt' hfits⟩

end HugePool.Geometry
