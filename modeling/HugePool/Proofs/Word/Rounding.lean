import HugePool.Word
import Mathlib.Data.Nat.Bitwise

/-!
# Rounding up to powers of two

`alignUp? value align` is the multiple of `align` in `[value, value + align)`, of which there is
exactly one, and `none` when that multiple is not a word (`alignUp?_eq_some_iff`,
`alignUp?_eq_none_iff`).  The overflow check is made on `value + (align - 1)` and not on the
multiple; the two agree because `2 ^ 64` is a multiple of `align` as well, so that no multiple lies
in the last `align - 1` places before it (`IsPowerOfTwo.add_le_size_of_dvd`).

`nextPowerOfTwo? w` is at least `w` and divides every power of two that is (`le_nextPowerOfTwo?`,
`nextPowerOfTwo?_dvd`).
-/

namespace HugePool.Word

/-! ### Bits -/

theorem testBit_not (w : UInt64) (i : Nat) :
    (~~~w).toNat.testBit i = (decide (i < 64) && !w.toNat.testBit i) := by
  simp only [← UInt64.toNat_toBitVec, BitVec.testBit_toNat, UInt64.toBitVec_not, BitVec.getLsbD_not]

/-- No bit past the word is set. -/
theorem testBit_of_le (w : UInt64) {i : Nat} (h : 64 ≤ i) : w.toNat.testBit i = false :=
  Nat.testBit_lt_two_pow (Nat.lt_of_lt_of_le w.toNat_lt (Nat.pow_le_pow_right (by decide) h))

/-! ### Multiples of a power of two -/

/-- Clearing the bits below a power of two leaves the multiple of it below the word. -/
theorem IsPowerOfTwo.toNat_and_not_sub_one {p : UInt64} (h : IsPowerOfTwo p) (w : UInt64) :
    (w &&& ~~~(p - 1)).toNat = w.toNat / p.toNat * p.toNat := by
  have hone : (1 : UInt64) ≤ p := UInt64.le_iff_toNat_le.mpr h.pos
  obtain ⟨k, hk⟩ := h
  have hlow : (p - 1).toNat = 2 ^ k - 1 := by rw [UInt64.toNat_sub_of_le _ _ hone, hk]; rfl
  apply Nat.eq_of_testBit_eq
  intro i
  rw [UInt64.toNat_and, Nat.testBit_and, testBit_not, hlow, hk, Nat.testBit_two_pow_sub_one,
    Nat.testBit_mul_two_pow, Nat.testBit_div_two_pow]
  by_cases hi : k ≤ i
  · rw [Nat.sub_add_cancel hi]
    by_cases h64 : i < 64
    · simp [hi, h64, Nat.not_lt.mpr hi]
    · -- past the word both sides are clear
      simp [testBit_of_le w (Nat.not_lt.mp h64)]
  · simp [hi, Nat.not_le.mp hi]

/-! ### `alignUp?` -/

theorem alignUp?_eq_some_iff {value align r : UInt64} (h : IsPowerOfTwo align) :
    alignUp? value align = some r ↔
      align.toNat ∣ r.toNat ∧ value.toNat ≤ r.toNat ∧ r.toNat < value.toNat + align.toNat := by
  have hpos := h.pos
  have hsub : (align - 1).toNat = align.toNat - 1 :=
    UInt64.toNat_sub_of_le _ _ (UInt64.le_iff_toNat_le.mpr hpos)
  simp only [alignUp?, Option.map_eq_some_iff, add?_eq_some_iff, hsub]
  constructor
  · rintro ⟨sum, hsum, rfl⟩
    rw [h.toNat_and_not_sub_one]
    have hmod := Nat.div_add_mod' sum.toNat align.toNat
    have hlt := Nat.mod_lt sum.toNat hpos
    exact ⟨Nat.dvd_mul_left _ _, by omega, by omega⟩
  · rintro ⟨hdvd, hle, hlt⟩
    have hroom := h.add_le_size_of_dvd hdvd r.toNat_lt
    have hsum : (UInt64.ofNat (value.toNat + (align.toNat - 1))).toNat
        = value.toNat + (align.toNat - 1) := UInt64.toNat_ofNat_of_lt' (by omega)
    refine ⟨_, hsum, ?_⟩
    apply UInt64.toNat_inj.mp
    rw [h.toNat_and_not_sub_one, hsum]
    obtain ⟨c, hc⟩ := hdvd
    have hquot : (value.toNat + (align.toNat - 1)) / align.toNat = c := by
      apply Nat.div_eq_of_lt_le
      · rw [Nat.mul_comm]; omega
      · rw [Nat.succ_mul, Nat.mul_comm]; omega
    rw [hquot, hc, Nat.mul_comm]

theorem alignUp?_eq_none_iff {value align : UInt64} (h : IsPowerOfTwo align) :
    alignUp? value align = none ↔
      ∀ m, align.toNat ∣ m → value.toNat ≤ m → UInt64.size ≤ m := by
  have hpos := h.pos
  have hsub : (align - 1).toNat = align.toNat - 1 :=
    UInt64.toNat_sub_of_le _ _ (UInt64.le_iff_toNat_le.mpr hpos)
  rw [alignUp?, Option.map_eq_none_iff, add?_eq_none_iff, hsub]
  constructor
  · intro hover m hdvd hle
    by_contra hlt
    have := h.add_le_size_of_dvd hdvd (Nat.not_le.mp hlt)
    omega
  · intro hnone
    -- the multiple at or before `value + (align - 1)` is at least `value`
    have hmod := Nat.div_add_mod' (value.toNat + (align.toNat - 1)) align.toNat
    have hlt := Nat.mod_lt (value.toNat + (align.toNat - 1)) hpos
    have := hnone ((value.toNat + (align.toNat - 1)) / align.toNat * align.toNat)
      (Nat.dvd_mul_left _ _) (by omega)
    omega

/-- The answer is at most every multiple that is large enough. -/
theorem alignUp?_le {value align r : UInt64} (h : IsPowerOfTwo align)
    (hr : alignUp? value align = some r) {m : Nat} (hm : align.toNat ∣ m)
    (hle : value.toNat ≤ m) : r.toNat ≤ m := by
  obtain ⟨hdvd, -, hlt⟩ := (alignUp?_eq_some_iff h).mp hr
  obtain ⟨a, ha⟩ := hdvd
  obtain ⟨b, rfl⟩ := hm
  rw [ha] at hlt ⊢
  have hab : a < b + 1 := by
    apply Nat.lt_of_mul_lt_mul_left (a := align.toNat)
    rw [Nat.mul_succ]
    omega
  exact Nat.mul_le_mul_left _ (Nat.le_of_lt_succ hab)

/-! ### `nextPowerOfTwo?` -/

theorem le_nextPowerOfTwo? {w p : UInt64} (h : nextPowerOfTwo? w = some p) :
    w.toNat ≤ p.toNat := by
  rw [toNat_of_nextPowerOfTwo? h]
  exact le_shiftLeft_ceilLog2 w.toNat

/-- The answer divides every power of two that is large enough. -/
theorem nextPowerOfTwo?_dvd {w p q : UInt64} (h : nextPowerOfTwo? w = some p)
    (hq : IsPowerOfTwo q) (hle : w ≤ q) : p.toNat ∣ q.toNat := by
  obtain ⟨k, hk⟩ := hq
  rw [UInt64.le_iff_toNat_le, hk, ← Nat.one_shiftLeft] at hle
  rw [toNat_of_nextPowerOfTwo? h, hk, Nat.one_shiftLeft]
  exact Nat.pow_dvd_pow 2 (ceilLog2_le hle)

/-- A power of two divides every larger one. -/
theorem dvd_of_isPowerOfTwo_of_le {a b : Nat} (ha : a.isPowerOfTwo) (hb : b.isPowerOfTwo)
    (hle : a ≤ b) : a ∣ b := by
  obtain ⟨j, rfl⟩ := ha
  obtain ⟨k, rfl⟩ := hb
  exact Nat.pow_dvd_pow 2 ((Nat.pow_le_pow_iff_right (by decide)).mp hle)

theorem IsPowerOfTwo.dvd_of_le {p q : UInt64} (hp : IsPowerOfTwo p) (hq : IsPowerOfTwo q)
    (hle : p.toNat ≤ q.toNat) : p.toNat ∣ q.toNat :=
  dvd_of_isPowerOfTwo_of_le hp hq hle

end HugePool.Word
