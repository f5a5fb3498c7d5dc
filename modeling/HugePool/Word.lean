/-!
# Checked 64-bit words

Addresses, lengths and counts are words of type `UInt64`.  Arithmetic on them that must not wrap is
written with the partial operations of this module, which answer `none` where the exact result does
not fit:

* `Word.add?`, `Word.mul?`: sum and product, when below `2 ^ 64`;
* `Word.IsPowerOfTwo`: being a power of two, a decidable predicate that fails at `0`;
* `Word.nextPowerOfTwo?`: the least power of two that is at least a word;
* `Word.alignUp?`: the least multiple of a power of two that is at least a word, found by adding
  `align - 1` and clearing the low bits;
* `Word.byte`, `Word.ofBytes`: the eight bytes of a word, least significant first.

The lemmas read each operation in `Nat`, where `omega` takes over; the number of words is
`UInt64.size` there.
-/

namespace HugePool.Word

/-! ### Sums and products -/

/-- `a + b`, or `none` when the exact sum is not a word. -/
def add? (a b : UInt64) : Option UInt64 :=
  if a.toNat + b.toNat < UInt64.size then some (a + b) else none

/-- `a * b`, or `none` when the exact product is not a word. -/
def mul? (a b : UInt64) : Option UInt64 :=
  if a.toNat * b.toNat < UInt64.size then some (a * b) else none

theorem add?_eq_none_iff {a b : UInt64} : add? a b = none ↔ UInt64.size ≤ a.toNat + b.toNat := by
  unfold add?
  split <;> simp <;> omega

theorem add?_eq_some_iff {a b c : UInt64} : add? a b = some c ↔ c.toNat = a.toNat + b.toNat := by
  unfold add?
  split
  · rename_i h
    rw [Option.some_inj]
    constructor
    · rintro rfl
      rw [UInt64.toNat_add, Nat.mod_eq_of_lt h]
    · intro hc
      apply UInt64.toNat_inj.mp
      rw [UInt64.toNat_add, Nat.mod_eq_of_lt h, hc]
  · rename_i h
    have := c.toNat_lt_size
    simp
    omega

theorem mul?_eq_none_iff {a b : UInt64} : mul? a b = none ↔ UInt64.size ≤ a.toNat * b.toNat := by
  unfold mul?
  split <;> simp <;> omega

theorem mul?_eq_some_iff {a b c : UInt64} : mul? a b = some c ↔ c.toNat = a.toNat * b.toNat := by
  unfold mul?
  split
  · rename_i h
    rw [Option.some_inj]
    constructor
    · rintro rfl
      rw [UInt64.toNat_mul, Nat.mod_eq_of_lt h]
    · intro hc
      apply UInt64.toNat_inj.mp
      rw [UInt64.toNat_mul, Nat.mod_eq_of_lt h, hc]
  · rename_i h
    have := c.toNat_lt_size
    simp
    omega

theorem isSome_mul?_iff {a b : UInt64} : (mul? a b).isSome ↔ a.toNat * b.toNat < UInt64.size := by
  rw [← Nat.not_le, ← mul?_eq_none_iff, Option.isSome_iff_ne_none]

/-! ### Powers of two -/

/-- The word is `2 ^ k` for some `k`.  Zero is not. -/
def IsPowerOfTwo (w : UInt64) : Prop := w.toNat.isPowerOfTwo

instance (w : UInt64) : Decidable (IsPowerOfTwo w) :=
  inferInstanceAs (Decidable w.toNat.isPowerOfTwo)

/-- The exponent of the least power of two that is at least `n`. -/
def ceilLog2 (n : Nat) : Nat := if n ≤ 1 then 0 else (n - 1).log2 + 1

/-- The least power of two that is at least `w`, or `none` when that is `2 ^ 64`. -/
def nextPowerOfTwo? (w : UInt64) : Option UInt64 :=
  let n := 1 <<< ceilLog2 w.toNat
  if n < UInt64.size then some (UInt64.ofNat n) else none

theorem le_shiftLeft_ceilLog2 (n : Nat) : n ≤ 1 <<< ceilLog2 n := by
  rw [Nat.one_shiftLeft]
  unfold ceilLog2
  split
  · simpa
  · have := Nat.lt_log2_self (n := n - 1)
    omega

/-- No smaller power of two is large enough. -/
theorem ceilLog2_le {n k : Nat} (h : n ≤ 1 <<< k) : ceilLog2 n ≤ k := by
  rw [Nat.one_shiftLeft] at h
  unfold ceilLog2
  split
  · exact Nat.zero_le k
  · have hlt : n - 1 < 2 ^ k := by omega
    exact Nat.succ_le_of_lt ((Nat.log2_lt (by omega)).mpr hlt)

theorem toNat_of_nextPowerOfTwo? {w p : UInt64} (h : nextPowerOfTwo? w = some p) :
    p.toNat = 1 <<< ceilLog2 w.toNat := by
  unfold nextPowerOfTwo? at h
  simp only [Option.ite_none_right_eq_some, Option.some.injEq] at h
  rw [← h.2, UInt64.toNat_ofNat', Nat.mod_eq_of_lt h.1]

theorem isPowerOfTwo_of_nextPowerOfTwo? {w p : UInt64} (h : nextPowerOfTwo? w = some p) :
    IsPowerOfTwo p :=
  ⟨ceilLog2 w.toNat, (toNat_of_nextPowerOfTwo? h).trans (Nat.one_shiftLeft _)⟩

theorem IsPowerOfTwo.pos {p : UInt64} (h : IsPowerOfTwo p) : 0 < p.toNat :=
  Nat.pos_of_isPowerOfTwo h

/-- A word that is a power of two divides the number of words. -/
theorem IsPowerOfTwo.dvd {p : UInt64} (h : IsPowerOfTwo p) : p.toNat ∣ UInt64.size := by
  obtain ⟨k, hk⟩ := h
  have hlt : 2 ^ k < UInt64.size := hk ▸ p.toNat_lt
  have hle : k ≤ 64 := Nat.le_of_lt ((Nat.pow_lt_pow_iff_right (by decide)).mp hlt)
  rw [hk]
  exact Nat.pow_dvd_pow 2 hle

/-- A multiple of a power of two below `2 ^ 64` leaves room for one more. -/
theorem IsPowerOfTwo.add_le_size_of_dvd {p : UInt64} (h : IsPowerOfTwo p) {m : Nat}
    (hm : p.toNat ∣ m) (hlt : m < UInt64.size) : m + p.toNat ≤ UInt64.size := by
  have hgap : p.toNat ∣ UInt64.size - m := Nat.dvd_sub h.dvd hm
  have := Nat.le_of_dvd (Nat.sub_pos_of_lt hlt) hgap
  omega

/-- The low bits below a power of two are the remainder. -/
theorem IsPowerOfTwo.toNat_and_sub_one {p : UInt64} (h : IsPowerOfTwo p) (w : UInt64) :
    (w &&& (p - 1)).toNat = w.toNat % p.toNat := by
  have hpos := h.pos
  have hone : (1 : UInt64) ≤ p := UInt64.le_iff_toNat_le.mpr hpos
  obtain ⟨k, hk⟩ := h
  rw [UInt64.toNat_and, UInt64.toNat_sub_of_le _ _ hone, hk]
  exact Nat.and_two_pow_sub_one_eq_mod _ _

/-! ### Rounding up -/

/-- The least multiple of `align` that is at least `value`, for a power of two `align`; `none` when
`value + (align - 1)` is not a word. -/
def alignUp? (value align : UInt64) : Option UInt64 :=
  (add? value (align - 1)).map (· &&& ~~~(align - 1))

/-! ### Bytes -/

/-- Byte `i` of a word, counted from the least significant. -/
def byte (w : UInt64) (i : Nat) : UInt8 :=
  UInt8.ofNat (w.toNat >>> (8 * i))

/-- The word whose byte `i` is `f i`, for `i < 8`. -/
def ofBytes (f : Nat → UInt8) : UInt64 :=
  UInt64.ofNat ((List.range 8).foldr (fun i rest => (f i).toNat + 256 * rest) 0)

theorem ofBytes_byte (w : UInt64) : ofBytes (byte w) = w := by
  apply UInt64.toNat_inj.mp
  have := w.toNat_lt
  simp only [ofBytes, byte, List.range, List.range.loop, List.foldr, UInt64.toNat_ofNat',
    UInt8.toNat_ofNat']
  omega

theorem ofBytes_congr {f g : Nat → UInt8} (h : ∀ i < 8, f i = g i) : ofBytes f = ofBytes g := by
  simp [ofBytes, List.range, List.range.loop, h]

end HugePool.Word
