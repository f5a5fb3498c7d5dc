import HugePool.Address.Basic

/-!
# Address ranges

A `Range` is the half-open interval `[start, start + len)` of one space.  Its end is an address too,
so that no range reaches past the last address of its space; this is part of the type.  All
questions about a range are answered without leaving 64 bits:

* `mem_iff`: an address lies in the range exactly when it lies between the two ends;
* `offsetOf?_eq_some_iff`, `at?_eq_some_iff`: the two directions between addresses and offsets;
* `containsSpan_iff`: a span lies in the range exactly when its first byte does and it ends in time.
-/

namespace HugePool

/-- The addresses from `start` on, `len` of them. -/
@[ext]
structure Range (space : Space) where
  start : Address space
  len : UInt64
  /-- The end of the range is an address. -/
  fits : start.toNat + len.toNat < UInt64.size
  deriving DecidableEq

namespace Range

variable {space : Space}

/-- The range of a given start and length, or `none` when its end is not an address. -/
def ofLength? (start : Address space) (len : UInt64) : Option (Range space) :=
  if h : start.toNat + len.toNat < UInt64.size then some ⟨start, len, h⟩ else none

/-- The first address past the range. -/
def stop (r : Range space) : Address space := ⟨r.start.word + r.len⟩

/-- The range has no address. -/
def isEmpty (r : Range space) : Bool := r.len == 0

/-- The distance of an address of the range from its start. -/
def offsetOf? (r : Range space) (a : Address space) : Option UInt64 :=
  if r.start.word ≤ a.word then
    let offset := a.word - r.start.word
    if offset < r.len then some offset else none
  else none

/-- The address at a distance from the start of the range. -/
def at? (r : Range space) (offset : UInt64) : Option (Address space) :=
  if offset < r.len then some ⟨r.start.word + offset⟩ else none

/-- The range has the address. -/
def contains (r : Range space) (a : Address space) : Bool := (r.offsetOf? a).isSome

/-- The range has the address and holds the `len` bytes from it on. -/
def containsSpan (r : Range space) (a : Address space) (len : UInt64) : Bool :=
  match r.offsetOf? a with
  | some offset => len ≤ r.len - offset
  | none => false

/-- The description of a range: its start, two dots and its end. -/
def layout (r : Range space) : Text.Layout :=
  .bare (r.start.tagged ++ ".." ++ r.stop.tagged)

/-! ### Ranges as intervals of numbers -/

instance : Membership (Address space) (Range space) where
  mem r a := r.start.toNat ≤ a.toNat ∧ a.toNat < r.start.toNat + r.len.toNat

theorem mem_iff {r : Range space} {a : Address space} :
    a ∈ r ↔ r.start.toNat ≤ a.toNat ∧ a.toNat < r.start.toNat + r.len.toNat := Iff.rfl

theorem ofLength?_eq_some_iff {start : Address space} {len : UInt64} {r : Range space} :
    ofLength? start len = some r ↔ r.start = start ∧ r.len = len := by
  unfold ofLength?
  split
  · rw [Option.some_inj]
    constructor
    · rintro rfl
      exact ⟨rfl, rfl⟩
    · rintro ⟨rfl, rfl⟩
      rfl
  · rename_i h
    simp only [false_iff, reduceCtorEq]
    rintro ⟨rfl, rfl⟩
    exact h r.fits

theorem ofLength?_eq_none_iff {start : Address space} {len : UInt64} :
    ofLength? start len = none ↔ UInt64.size ≤ start.toNat + len.toNat := by
  unfold ofLength?
  split <;> simp <;> omega

theorem toNat_stop (r : Range space) : r.stop.toNat = r.start.toNat + r.len.toNat := by
  have := r.fits
  simp only [stop, Address.toNat, UInt64.toNat_add, UInt64.size] at *
  omega

theorem offsetOf?_eq_some_iff {r : Range space} {a : Address space} {offset : UInt64} :
    r.offsetOf? a = some offset ↔
      a.toNat = r.start.toNat + offset.toNat ∧ offset.toNat < r.len.toNat := by
  have hr := r.fits
  have ho := offset.toNat_lt
  have ha := a.word.toNat_lt
  simp only [offsetOf?, Address.toNat, UInt64.le_iff_toNat_le, UInt64.lt_iff_toNat_lt] at *
  by_cases h : r.start.word.toNat ≤ a.word.toNat
  · have hsub : (a.word - r.start.word).toNat = a.word.toNat - r.start.word.toNat :=
      UInt64.toNat_sub_of_le _ _ (UInt64.le_iff_toNat_le.mpr h)
    simp only [h, if_true, Option.ite_none_right_eq_some, Option.some.injEq, hsub,
      ← UInt64.toNat_inj]
    omega
  · simp only [h, if_false, reduceCtorEq, false_iff]
    omega

theorem at?_eq_some_iff {r : Range space} {a : Address space} {offset : UInt64} :
    r.at? offset = some a ↔
      a.toNat = r.start.toNat + offset.toNat ∧ offset.toNat < r.len.toNat := by
  have hr := r.fits
  simp only [at?, UInt64.lt_iff_toNat_lt, Option.ite_none_right_eq_some, Option.some.injEq,
    ← Address.toNat_inj]
  simp only [Address.toNat, UInt64.toNat_add, UInt64.size] at *
  constructor
  · rintro ⟨hlt, h⟩
    omega
  · rintro ⟨h, hlt⟩
    omega

theorem contains_iff {r : Range space} {a : Address space} : r.contains a = true ↔ a ∈ r := by
  rw [contains, Option.isSome_iff_exists, mem_iff]
  constructor
  · rintro ⟨offset, h⟩
    have := offsetOf?_eq_some_iff.mp h
    omega
  · rintro ⟨hle, hlt⟩
    have ha := a.toNat_lt
    refine ⟨UInt64.ofNat (a.toNat - r.start.toNat), offsetOf?_eq_some_iff.mpr ?_⟩
    rw [UInt64.toNat_ofNat_of_lt' (by omega)]
    omega

theorem containsSpan_iff {r : Range space} {a : Address space} {len : UInt64} :
    r.containsSpan a len = true ↔
      a ∈ r ∧ a.toNat + len.toNat ≤ r.start.toNat + r.len.toNat := by
  rw [← contains_iff, contains, containsSpan]
  cases h : r.offsetOf? a with
  | none => simp
  | some offset =>
    have hoff := offsetOf?_eq_some_iff.mp h
    have hsub : (r.len - offset).toNat = r.len.toNat - offset.toNat :=
      UInt64.toNat_sub_of_le _ _ (UInt64.le_iff_toNat_le.mpr (by omega))
    simp only [decide_eq_true_eq, UInt64.le_iff_toNat_le, hsub, Option.isSome_some, true_and]
    omega

end Range

end HugePool
