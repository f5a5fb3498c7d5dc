import HugePool.Outcome
import HugePool.Proofs.Word.Rounding
import Mathlib.Order.Bounds.Basic
import Mathlib.Order.Nat

/-!
# Least multiples and least powers of two

What words are rounded up to, in unbounded arithmetic: the least of the multiples of a number that
are large enough (`multiplesFrom`), and the least of the powers of two that are (`powersFrom`).

* `multiplesFrom_subset`, `powersFrom_subset`: more is asked for, fewer numbers are left.  With
  `IsLeast.mono` this is all that there is to say about how rounding depends on what is rounded.
* `isLeast_powersFrom_max`: rounding up to the alignment and then to a power of two is the same as
  rounding up to a power of two and taking the alignment if that is larger.
* `alignUp?_eq_some_iff_isLeast`, `alignUp?_eq_none_iff_of_isLeast`: `alignUp?` finds the least
  multiple, unless that is not a word.
* `alignUp_exact`: the same of `alignUp`, with what follows when it is used twice or on two words.
-/

namespace HugePool.Word

/-! ### Least multiples and powers of two -/

/-- The multiples of `a` that are at least `v`. -/
def multiplesFrom (a v : Nat) : Set Nat := {m | a ∣ m ∧ v ≤ m}

/-- The powers of two that are at least `v`. -/
def powersFrom (v : Nat) : Set Nat := {m | m.isPowerOfTwo ∧ v ≤ m}

theorem exists_isLeast_multiplesFrom {a : Nat} (ha : 0 < a) (v : Nat) :
    ∃ m, IsLeast (multiplesFrom a v) m :=
  ⟨_, Nat.isLeast_find ⟨a * v, Nat.dvd_mul_right a v, Nat.le_mul_of_pos_left v ha⟩⟩

theorem exists_isLeast_powersFrom (v : Nat) : ∃ m, IsLeast (powersFrom v) m :=
  ⟨_, Nat.isLeast_find ⟨2 ^ v, ⟨v, rfl⟩, Nat.lt_two_pow_self.le⟩⟩

/-- Of a larger number the multiples of a multiple are fewer. -/
theorem multiplesFrom_subset {a b v w : Nat} (hdvd : a ∣ b) (hle : v ≤ w) :
    multiplesFrom b w ⊆ multiplesFrom a v := by
  rintro m ⟨hm, hw⟩
  exact ⟨hdvd.trans hm, hle.trans hw⟩

theorem powersFrom_subset {v w : Nat} (hle : v ≤ w) : powersFrom w ⊆ powersFrom v := by
  rintro m ⟨hm, hw⟩
  exact ⟨hm, hle.trans hw⟩

theorem isLeast_multiplesFrom_self {a v : Nat} (h : a ∣ v) : IsLeast (multiplesFrom a v) v :=
  ⟨⟨h, le_rfl⟩, fun _ hm => hm.2⟩

theorem isLeast_powersFrom_self {v : Nat} (h : v.isPowerOfTwo) : IsLeast (powersFrom v) v :=
  ⟨⟨h, le_rfl⟩, fun _ hm => hm.2⟩

theorem isPowerOfTwo_max {a b : Nat} (ha : a.isPowerOfTwo) (hb : b.isPowerOfTwo) :
    (max a b).isPowerOfTwo := by
  rcases Nat.le_total a b with hle | hle
  · rwa [Nat.max_eq_right hle]
  · rwa [Nat.max_eq_left hle]

/-- Rounding a power of two up to the multiples of another one takes the larger of the two. -/
theorem isLeast_multiplesFrom_max {a b : Nat} (ha : a.isPowerOfTwo) (hb : b.isPowerOfTwo) :
    IsLeast (multiplesFrom b a) (max a b) := by
  constructor
  · exact ⟨dvd_of_isPowerOfTwo_of_le hb (isPowerOfTwo_max ha hb) (Nat.le_max_right a b),
      Nat.le_max_left a b⟩
  · rintro m ⟨hdvd, hle⟩
    have hpos := Nat.pos_of_isPowerOfTwo ha
    exact Nat.max_le.mpr ⟨hle, Nat.le_of_dvd (by omega) hdvd⟩

/-- Rounding up to the multiples of a power of two first does not change the power of two that is
reached, unless that one is smaller. -/
theorem isLeast_powersFrom_max {a v s q : Nat} (ha : a.isPowerOfTwo) (hv : 0 < v)
    (hs : IsLeast (multiplesFrom a v) s) (hq : IsLeast (powersFrom v) q) :
    IsLeast (powersFrom s) (max q a) := by
  obtain ⟨hq_pow, hq_le⟩ := hq.1
  have hmax : max q a ∈ multiplesFrom a v :=
    ⟨dvd_of_isPowerOfTwo_of_le ha (isPowerOfTwo_max hq_pow ha) (Nat.le_max_right q a),
      hq_le.trans (Nat.le_max_left q a)⟩
  refine ⟨⟨isPowerOfTwo_max hq_pow ha, hs.2 hmax⟩, ?_⟩
  rintro m ⟨hm, hle⟩
  have hv_le : v ≤ s := hs.1.2
  have ha_le : a ≤ s := Nat.le_of_dvd (by omega) hs.1.1
  exact Nat.max_le.mpr ⟨hq.2 ⟨hm, hv_le.trans hle⟩, ha_le.trans hle⟩

/-! ### Rounding words -/

theorem isLeast_of_alignUp? {value align r : UInt64} (h : IsPowerOfTwo align)
    (hr : alignUp? value align = some r) :
    IsLeast (multiplesFrom align.toNat value.toNat) r.toNat := by
  obtain ⟨hdvd, hle, -⟩ := (alignUp?_eq_some_iff h).mp hr
  exact ⟨⟨hdvd, hle⟩, fun m hm => alignUp?_le h hr hm.1 hm.2⟩

theorem alignUp?_eq_none_iff_of_isLeast {value align : UInt64} (h : IsPowerOfTwo align) {m : Nat}
    (hm : IsLeast (multiplesFrom align.toNat value.toNat) m) :
    alignUp? value align = none ↔ UInt64.size ≤ m := by
  rw [alignUp?_eq_none_iff h]
  constructor
  · intro hall
    exact hall m hm.1.1 hm.1.2
  · intro hle m' hdvd hge
    exact hle.trans (hm.2 ⟨hdvd, hge⟩)

theorem isLeast_of_nextPowerOfTwo? {w p : UInt64} (h : nextPowerOfTwo? w = some p) :
    IsLeast (powersFrom w.toNat) p.toNat := by
  refine ⟨⟨isPowerOfTwo_of_nextPowerOfTwo? h, le_nextPowerOfTwo? h⟩, ?_⟩
  rintro m ⟨⟨k, rfl⟩, hle⟩
  rw [← Nat.one_shiftLeft] at hle
  rw [toNat_of_nextPowerOfTwo? h, Nat.one_shiftLeft]
  exact Nat.pow_le_pow_right Nat.two_pos (ceilLog2_le hle)

theorem alignUp?_eq_some_iff_isLeast {value align r : UInt64} (h : IsPowerOfTwo align) :
    alignUp? value align = some r ↔ IsLeast (multiplesFrom align.toNat value.toNat) r.toNat := by
  constructor
  · exact isLeast_of_alignUp? h
  · intro hr
    cases halign : alignUp? value align with
    | none =>
      have hsize := (alignUp?_eq_none_iff_of_isLeast h hr).mp halign
      exact absurd r.toNat_lt_size (Nat.not_lt.mpr hsize)
    | some r' => rw [UInt64.toNat_inj.mp ((isLeast_of_alignUp? h halign).unique hr)]

theorem alignUp_eq_ok_iff {ε : Type} {value align : UInt64} {answer : Option UInt64} :
    (alignUp value align : Outcome ε _) = .ok answer ↔
      IsPowerOfTwo align ∧ alignUp? value align = answer := by
  simp [alignUp, Outcome.bind_eq_ok_iff, Outcome.require_eq_ok_iff]

theorem alignUp_eq_panic {ε : Type} {value align : UInt64} (h : ¬ IsPowerOfTwo align) :
    (alignUp value align : Outcome ε _) = .panic .alignNotPowerOfTwo := by
  rw [alignUp, Outcome.require_neg h]
  rfl

/-- What was rounded up already stays. -/
theorem alignUp?_of_alignUp? {value align r : UInt64} (h : IsPowerOfTwo align)
    (hr : alignUp? value align = some r) : alignUp? r align = some r := by
  have hdvd := (isLeast_of_alignUp? h hr).1.1
  exact (alignUp?_eq_some_iff_isLeast h).mpr (isLeast_multiplesFrom_self hdvd)

/-- A smaller word can be rounded up if a larger one can. -/
theorem alignUp?_mono {value value' align r' : UInt64} (h : IsPowerOfTwo align)
    (hle : value ≤ value') (hr' : alignUp? value' align = some r') :
    ∃ r, alignUp? value align = some r ∧ r ≤ r' := by
  have hleast' := isLeast_of_alignUp? h hr'
  have hsubset := multiplesFrom_subset (dvd_refl align.toNat) (UInt64.le_iff_toNat_le.mp hle)
  cases hr : alignUp? value align with
  | none =>
    -- the larger word's multiple is one that would have done
    have hsize := (alignUp?_eq_none_iff h).mp hr r'.toNat hleast'.1.1 (hsubset hleast'.1).2
    exact absurd r'.toNat_lt_size (Nat.not_lt.mpr hsize)
  | some r =>
    exact ⟨r, rfl, UInt64.le_iff_toNat_le.mpr (hleast'.mono (isLeast_of_alignUp? h hr) hsubset)⟩

/-- **Rounding up**: for a power of two the answer is the least multiple that is large enough, and
there is none only where that multiple is not a word.  What was rounded up stays as it is, and a
smaller word has an answer that is not larger.  Anything but a power of two panics. -/
theorem alignUp_exact {ε : Type} (value align : UInt64) :
    let up (w : UInt64) : Outcome ε (Option UInt64) := alignUp w align
    (¬ IsPowerOfTwo align → up value = .panic .alignNotPowerOfTwo) ∧
    (IsPowerOfTwo align →
      ∃ m, IsLeast (multiplesFrom align.toNat value.toNat) m ∧
        (∀ r, up value = .ok (some r) ↔ r.toNat = m) ∧
        (up value = .ok none ↔ 2 ^ 64 ≤ m) ∧
        (∀ r, up value = .ok (some r) → up r = .ok (some r)) ∧
        ∀ value' r', value ≤ value' → up value' = .ok (some r') →
          ∃ r, up value = .ok (some r) ∧ r ≤ r') := by
  intro up
  refine ⟨alignUp_eq_panic, fun h => ?_⟩
  have hup : ∀ w answer, up w = .ok answer ↔ alignUp? w align = answer := fun w answer =>
    alignUp_eq_ok_iff.trans (and_iff_right h)
  obtain ⟨m, hm⟩ := exists_isLeast_multiplesFrom h.pos value.toNat
  refine ⟨m, hm, fun r => ?_, ?_, fun r hr => ?_, fun value' r' hle hr' => ?_⟩
  · rw [hup, alignUp?_eq_some_iff_isLeast h]
    constructor
    · intro hr
      exact hr.unique hm
    · rintro rfl
      exact hm
  · rw [hup]
    exact alignUp?_eq_none_iff_of_isLeast h hm
  · rw [hup] at hr ⊢
    exact alignUp?_of_alignUp? h hr
  · rw [hup] at hr'
    obtain ⟨r, hr, hler⟩ := alignUp?_mono h hle hr'
    exact ⟨r, (hup value _).mpr hr, hler⟩

/-- The last multiple of 4096 that is a word is the answer for the words just before it, and those
after it have none. -/
theorem alignUp_exact_last_multiple :
    (alignUp 18446744073709543425 4096 : Outcome Empty _) = .ok (some 18446744073709547520) ∧
    (∃ r, (alignUp 4097 4096 : Outcome Empty _) = .ok (some r) ∧ r ≤ 18446744073709547520) ∧
    (alignUp 18446744073709547521 4096 : Outcome Empty _) = .ok none ∧
    (alignUp 18446744073709547521 0 : Outcome Empty _) = .panic .alignNotPowerOfTwo := by
  have hpow : IsPowerOfTwo 4096 := ⟨12, rfl⟩
  obtain ⟨m, hm, hsome, -⟩ := (alignUp_exact (ε := Empty) 18446744073709543425 4096).2 hpow
  obtain ⟨-, -, -, -, -, hmono⟩ := (alignUp_exact (ε := Empty) 4097 4096).2 hpow
  obtain ⟨m', hm', -, hnone, -⟩ := (alignUp_exact (ε := Empty) 18446744073709547521 4096).2 hpow
  have hlast : (18446744073709547520 : UInt64).toNat = m := by
    obtain ⟨⟨hdvd, hle⟩, hleast⟩ := hm
    have hm_le : m ≤ 18446744073709547520 := hleast ⟨by decide, by decide⟩
    change 4096 ∣ m at hdvd
    change 18446744073709543425 ≤ m at hle
    change 18446744073709547520 = m
    omega
  have hover : 2 ^ 64 ≤ m' := by
    obtain ⟨hdvd, hle⟩ := hm'.1
    change 4096 ∣ m' at hdvd
    change 18446744073709547521 ≤ m' at hle
    omega
  have hword := (hsome _).mpr hlast
  exact ⟨hword, hmono _ _ (by decide) hword, hnone.mpr hover,
    (alignUp_exact (ε := Empty) 18446744073709547521 0).1 (by decide)⟩

end HugePool.Word
