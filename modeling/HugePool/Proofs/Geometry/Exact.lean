import HugePool.Proofs.Geometry.Sound
import HugePool.Proofs.Word.Least

/-!
# Geometries in unbounded arithmetic

A geometry is computed in words, with a check after each product and each sum.  This compares it
with what unbounded arithmetic says about a request: the rules that it breaks (`Config.breach?`),
and least multiples and least powers of two (`Word.multiplesFrom`, `Word.powersFrom`) for one that
breaks none.

* `Geometry.toNat_pagesLength?`, `Geometry.pagesLength?_eq_none_iff`: the checked length of all
  pages is the exact one, and is missing when that one is not a word.  No step before it can fail
  alone, because each intermediate result is at most the last one.
* `Config.geometry_exact`: the decision about a request, in all its cases.
-/

namespace HugePool

/-! ### The rules for requests -/

namespace Config

/-- The rules in the order in which they are checked, each as whether the request breaks it and the
error that says so. -/
def rules (c : Config) : List (Bool × CreateError) :=
  [(63 < c.name.utf8ByteSize, .nameTooLong c.name.utf8ByteSize),
    (¬ c.alignment.toNat.isPowerOfTwo, .alignmentNotPowerOfTwo c.alignment),
    (4096 < c.alignment.toNat, .alignmentTooLarge c.alignment),
    (c.bufferSize.toNat = 0, .zeroBufferSize),
    (2097152 < c.bufferSize.toNat, .bufferTooLarge c.bufferSize),
    (c.bufferCount.toNat = 0, .zeroBuffers)]

/-- The error for the first rule that a request breaks. -/
def breach? (c : Config) : Option CreateError := (c.rules.find? (·.1)).map (·.2)

/-- A request that breaks no rule is legal. -/
theorem legal_of_breach {c : Config} (h : c.breach? = none) :
    Geometry.Legal c.bufferSize c.bufferCount c.alignment := by
  simp only [breach?, rules, Option.map_eq_none_iff, List.find?_eq_none, List.forall_mem_cons,
    decide_eq_true_eq, Nat.not_lt, not_not] at h
  obtain ⟨-, hpow, halign, hsize, hlarge, hcount, -⟩ := h
  exact ⟨hpow, halign, Nat.pos_of_ne_zero hsize, hlarge, Nat.pos_of_ne_zero hcount⟩

/-- A request is refused for the first rule that it breaks, and placed if it breaks none. -/
theorem geometry_eq (c : Config) :
    c.geometry = match c.breach? with
      | some rule => .error rule
      | none => Geometry.place c.bufferSize c.bufferCount c.alignment := by
  have halign : maxAlignment < c.alignment ↔ 4096 < c.alignment.toNat := UInt64.lt_iff_toNat_lt
  have hlarge : hugePageSize < c.bufferSize ↔ 2097152 < c.bufferSize.toNat :=
    UInt64.lt_iff_toNat_lt
  have hsize : c.bufferSize = 0 ↔ c.bufferSize.toNat = 0 := UInt64.toNat_inj.symm
  have hcount : c.bufferCount = 0 ↔ c.bufferCount.toNat = 0 := UInt64.toNat_inj.symm
  unfold geometry Geometry.compute breach? rules
  simp only [maxNameBytes, Word.IsPowerOfTwo, halign, hlarge, hsize, hcount, List.find?_cons]
  split_ifs <;> simp [*]

end Config

/-! ### Placing the buffers -/

namespace Geometry

/-- The numbers of a geometry are those of a plan in unbounded arithmetic. -/
structure Reads (g : Geometry) (c : Config) (stride header pages : Nat) : Prop where
  bufferSize : g.bufferSize.toNat = stride
  bufferCount : g.bufferCount = c.bufferCount
  alignment : g.alignment = c.alignment
  headerOffset : g.headerOffset.toNat = header
  hugePages : g.hugePages.toNat = pages

/-- The length of all huge pages, for buffers at a distance behind a header, if it is a word. -/
def pagesLength? (stride count header : UInt64) : Option UInt64 :=
  ((Word.mul? stride count).bind (Word.add? · header)).bind (Word.alignUp? · hugePageSize)

section

variable {stride count header : UInt64} {total : Nat}
  (h : IsLeast (Word.multiplesFrom hugePageSize.toNat
    (stride.toNat * count.toNat + header.toNat)) total)

include h

theorem pagesLength?_eq_none_iff :
    pagesLength? stride count header = none ↔ UInt64.size ≤ total := by
  have hle : stride.toNat * count.toNat + header.toNat ≤ total := h.1.2
  unfold pagesLength?
  cases hmul : Word.mul? stride count with
  | none =>
    have := Word.mul?_eq_none_iff.mp hmul
    simp only [Option.bind_none, true_iff]
    omega
  | some payload =>
    rw [Option.bind_some]
    rw [← Word.mul?_eq_some_iff.mp hmul] at h hle
    cases hadd : Word.add? payload header with
    | none =>
      have := Word.add?_eq_none_iff.mp hadd
      simp only [Option.bind_none, true_iff]
      omega
    | some sum =>
      rw [← Word.add?_eq_some_iff.mp hadd] at h
      rw [Option.bind_some]
      exact Word.alignUp?_eq_none_iff_of_isLeast isPowerOfTwo_hugePageSize h

theorem toNat_pagesLength? {len : UInt64} (hlen : pagesLength? stride count header = some len) :
    len.toNat = total := by
  obtain ⟨sum, hsum, hlen⟩ := Option.bind_eq_some_iff.mp hlen
  obtain ⟨payload, hmul, hadd⟩ := Option.bind_eq_some_iff.mp hsum
  rw [← Word.mul?_eq_some_iff.mp hmul, ← Word.add?_eq_some_iff.mp hadd] at h
  exact (Word.isLeast_of_alignUp? isPowerOfTwo_hugePageSize hlen).unique h

end

/-- Once distance and header are known, only the length is left to be found. -/
theorem place_eq_of_spacing {size count alignment aligned stride header : UInt64}
    (hpow : Word.IsPowerOfTwo alignment) (haligned : Word.alignUp? size alignment = some aligned)
    (hspacing : spacing aligned count = (.ok (stride, header) : Outcome CreateError _)) :
    place size count alignment = match pagesLength? stride count header with
      | some len => .ok ⟨stride, count, alignment, header, len / hugePageSize⟩
      | none => .error .geometryOverflow := by
  rw [place, Word.alignUp_of_isPowerOfTwo hpow, Outcome.ok_bind, haligned, Outcome.ofOption,
    Outcome.ok_bind, hspacing, Outcome.ok_bind, pagesLength?]
  show (Outcome.ofOption ((Word.mul? stride count).bind (Word.add? · header)) _ >>= _) = _
  cases (Word.mul? stride count).bind (Word.add? · header) with
  | none => rfl
  | some total =>
    rw [Outcome.ofOption, Outcome.ok_bind, Option.bind_some,
      Word.alignUp_of_isPowerOfTwo isPowerOfTwo_hugePageSize, Outcome.ok_bind]
    cases Word.alignUp? total hugePageSize <;> rfl

/-- The huge page is a multiple of the alignment that is large enough. -/
theorem Legal.page_mem {size count alignment : UInt64} (h : Legal size count alignment) :
    hugePageSize.toNat ∈ Word.multiplesFrom alignment.toNat size.toNat :=
  ⟨h.alignment_isPowerOfTwo.dvd_of_le isPowerOfTwo_hugePageSize
    (h.alignment_le.trans (by decide)), h.size_le⟩

section

variable {c : Config} (h : Legal c.bufferSize c.bufferCount c.alignment) {s : Nat}
  (hs : IsLeast (Word.multiplesFrom c.alignment.toNat c.bufferSize.toNat) s)

include h hs

/-- Rounding a size up to the alignment stays within the huge page. -/
theorem exists_aligned : ∃ aligned, Word.alignUp? c.bufferSize c.alignment = some aligned ∧
    aligned.toNat = s ∧ s ≤ hugePageSize.toNat := by
  have hpow := h.alignment_isPowerOfTwo
  have hle : s ≤ hugePageSize.toNat := hs.2 h.page_mem
  cases haligned : Word.alignUp? c.bufferSize c.alignment with
  | none =>
    have := (Word.alignUp?_eq_none_iff_of_isLeast hpow hs).mp haligned
    rw [toNat_hugePageSize] at hle
    simp only [UInt64.size] at this
    omega
  | some aligned =>
    exact ⟨aligned, rfl, (Word.isLeast_of_alignUp? hpow haligned).unique hs, hle⟩

theorem place_of_fits (hfits : 4096 + s * c.bufferCount.toNat ≤ 2097152) :
    ∃ g, place c.bufferSize c.bufferCount c.alignment = .ok g ∧ g.Reads c s 4096 1 := by
  obtain ⟨aligned, haligned, rfl, -⟩ := exists_aligned h hs
  rw [Nat.add_comm] at hfits
  have hspacing : (spacing aligned c.bufferCount : Outcome CreateError _)
      = .ok (aligned, headerSize) := by
    rw [spacing, if_pos (fitsOnePage_iff.mpr hfits)]
  rw [place_eq_of_spacing h.alignment_isPowerOfTwo haligned hspacing]
  -- all of it lies in the first huge page
  have htotal : IsLeast (Word.multiplesFrom hugePageSize.toNat
      (aligned.toNat * c.bufferCount.toNat + headerSize.toNat)) hugePageSize.toNat :=
    ⟨⟨dvd_rfl, hfits⟩, fun m hm => Nat.le_of_dvd (lt_of_lt_of_le (by simp) hm.2) hm.1⟩
  cases hlen : pagesLength? aligned c.bufferCount headerSize with
  | none =>
    have := (pagesLength?_eq_none_iff htotal).mp hlen
    exact absurd this (by decide)
  | some len =>
    refine ⟨_, rfl, rfl, rfl, rfl, rfl, ?_⟩
    rw [UInt64.toNat_div, toNat_pagesLength? htotal hlen]
    rfl

theorem place_of_not_fits {p total : Nat} (hp : IsLeast (Word.powersFrom s) p)
    (htotal : IsLeast (Word.multiplesFrom 2097152 (p * c.bufferCount.toNat + max p 4096)) total)
    (hfits : ¬ 4096 + s * c.bufferCount.toNat ≤ 2097152) :
    if total < UInt64.size then
      ∃ g, place c.bufferSize c.bufferCount c.alignment = .ok g ∧
        g.Reads c p (max p 4096) (total / 2097152) ∧ 2 ≤ total / 2097152
    else place c.bufferSize c.bufferCount c.alignment = .error .geometryOverflow := by
  obtain ⟨aligned, haligned, rfl, hle⟩ := exists_aligned h hs
  rw [Nat.add_comm] at hfits
  have hspread : ¬ fitsOnePage aligned c.bufferCount = true := fun hone =>
    hfits (fitsOnePage_iff.mp hone)
  obtain ⟨stride, hnext⟩ : ∃ stride, Word.nextPowerOfTwo? aligned = some stride := by
    have hsettled := spacing_settled (ε := CreateError) hle c.bufferCount
    rw [spacing, if_neg hspread, Word.nextPowerOfTwo] at hsettled
    cases hnext : Word.nextPowerOfTwo? aligned with
    | none =>
      rw [hnext] at hsettled
      exact hsettled.elim
    | some stride => exact ⟨stride, rfl⟩
  obtain rfl : stride.toNat = p := (Word.isLeast_of_nextPowerOfTwo? hnext).unique hp
  have hspacing : (spacing aligned c.bufferCount : Outcome CreateError _)
      = .ok (stride, max stride headerSize) := by
    rw [spacing, if_neg hspread, Word.nextPowerOfTwo, hnext]
    rfl
  have hheader : (max stride headerSize).toNat = max stride.toNat 4096 :=
    UInt64.toNat_max stride headerSize
  rw [← hheader] at htotal
  rw [place_eq_of_spacing h.alignment_isPowerOfTwo haligned hspacing]
  cases hlen : pagesLength? stride c.bufferCount (max stride headerSize) with
  | none =>
    rw [if_neg (Nat.not_lt.mpr ((pagesLength?_eq_none_iff htotal).mp hlen))]
  | some len =>
    have hlen_nat := toNat_pagesLength? htotal hlen
    rw [if_pos (hlen_nat ▸ len.toNat_lt_size)]
    refine ⟨_, rfl, ⟨rfl, rfl, rfl, hheader, ?_⟩, ?_⟩
    · rw [UInt64.toNat_div, hlen_nat, toNat_hugePageSize]
    · -- the buffers did not fit in one page when they were closer together
      have hmul : aligned.toNat * c.bufferCount.toNat ≤ stride.toNat * c.bufferCount.toNat :=
        Nat.mul_le_mul_right _ hp.1.2
      have hge := htotal.1.2
      rw [hheader] at hge
      obtain ⟨k, rfl⟩ := htotal.1.1
      omega

end

end Geometry

/-- **Geometry**: a request is refused for the first rule that it breaks.  One that breaks none gets
the geometry that unbounded arithmetic gives it, in one huge page if that is enough and otherwise in
the huge pages that are, as long as their length is a word.  Computing a geometry never panics. -/
theorem Config.geometry_exact (c : Config) :
    (match c.breach? with
      | some rule => c.geometry = .error rule
      | none => ∃ s p total : Nat,
        IsLeast (Word.multiplesFrom c.alignment.toNat c.bufferSize.toNat) s ∧
        IsLeast (Word.powersFrom s) p ∧
        (∃ q, IsLeast (Word.powersFrom c.bufferSize.toNat) q ∧ p = max q c.alignment.toNat) ∧
        IsLeast (Word.multiplesFrom 4096 p) (max p 4096) ∧
        IsLeast (Word.multiplesFrom 2097152 (p * c.bufferCount.toNat + max p 4096)) total ∧
        if 4096 + s * c.bufferCount.toNat ≤ 2097152 then
          ∃ g, c.geometry = .ok g ∧ g.Reads c s 4096 1
        else if total < UInt64.size then
          ∃ g, c.geometry = .ok g ∧ g.Reads c p (max p 4096) (total / 2097152) ∧
            2 ≤ total / 2097152
        else c.geometry = .error .geometryOverflow) ∧
    ∀ size count alignment, (Geometry.compute size count alignment).Settled := by
  refine ⟨?_, Geometry.compute_settled⟩
  rw [Config.geometry_eq]
  cases hbreach : c.breach? with
  | some rule => rfl
  | none =>
    have hlegal := Config.legal_of_breach hbreach
    have hpow : c.alignment.toNat.isPowerOfTwo := hlegal.alignment_isPowerOfTwo
    obtain ⟨s, hs⟩ := Word.exists_isLeast_multiplesFrom (Nat.pos_of_isPowerOfTwo hpow)
      c.bufferSize.toNat
    obtain ⟨q, hq⟩ := Word.exists_isLeast_powersFrom c.bufferSize.toNat
    have hp := Word.isLeast_powersFrom_max hpow hlegal.size_pos hs hq
    obtain ⟨total, htotal⟩ := Word.exists_isLeast_multiplesFrom (a := 2097152) (by omega)
      (max q c.alignment.toNat * c.bufferCount.toNat + max (max q c.alignment.toNat) 4096)
    refine ⟨s, max q c.alignment.toNat, total, hs, hp, ⟨q, hq, rfl⟩,
      Word.isLeast_multiplesFrom_max hp.1.1 ⟨12, rfl⟩, htotal, ?_⟩
    by_cases hfits : 4096 + s * c.bufferCount.toNat ≤ 2097152
    · rw [if_pos hfits]
      exact Geometry.place_of_fits hlegal hs hfits
    · rw [if_neg hfits]
      exact Geometry.place_of_not_fits hlegal hs hp htotal hfits

/-- The most buffers of one byte that there can be, and one more. -/
example :
    Geometry.compute 1 18446744073707450368 1
      = .ok ⟨1, 18446744073707450368, 1, 4096, 8796093022207⟩ ∧
    Geometry.compute 1 18446744073707450369 1 = .error .geometryOverflow := by
  decide

end HugePool
