import HugePool.Outcome
import HugePool.Proofs.Address.Checked

/-!
# Ranges as intervals

A range is made from a start and a length if its end is an address, and is a panic otherwise
(`Range.ofLength_of_fits`, `Range.ofLength_of_past`).  From then on it is the interval of numbers
from the one up to the other: `Range.ReadsAs` says so of each operation on it, and `Range.Unwrapped`
that none of them leaves the words on the way.

Both hold of every range, because of its end (`Range.readsAs`, `Range.unwrapped`).  The last address
of a space belongs to no range, and a span that would reach past it lies in none.
-/

namespace HugePool.Range

variable {space : Space} {ε : Type}

/-! ### Making ranges -/

theorem ofLength_of_fits {start : Address space} {len : UInt64}
    (h : start.toNat + len.toNat < UInt64.size) :
    (ofLength start len : Outcome ε _) = .ok ⟨start, len, h⟩ := by
  rw [ofLength, ofLength?, dif_pos h]
  rfl

theorem ofLength_of_past {start : Address space} {len : UInt64}
    (h : UInt64.size ≤ start.toNat + len.toNat) :
    (ofLength start len : Outcome ε _) = .panic (.rangeOverflow start.tagged len) := by
  rw [ofLength, ofLength?_eq_none_iff.mpr h]
  rfl

/-! ### Operations on ranges -/

/-- The operations on a range are those on the numbers from `first` on, `count` of them. -/
structure ReadsAs (r : Range space) (first count : Nat) : Prop where
  stop : r.stop.toNat = first + count
  contains : ∀ a, r.contains a = true ↔ first ≤ a.toNat ∧ a.toNat < first + count
  offset_iff_at : ∀ a offset, r.offsetOf? a = some offset ↔ r.at? offset = some a
  at_iff : ∀ a offset, r.at? offset = some a ↔
    a.toNat = first + offset.toNat ∧ offset.toNat < count
  containsSpan : ∀ a len, r.containsSpan a len = true ↔
    r.contains a = true ∧ a.toNat + len.toNat ≤ first + count

/-- Each sum and each difference that an operation on a range computes is a word. -/
structure Unwrapped (r : Range space) : Prop where
  stop : r.checkedStop? = some r.stop
  contains : ∀ a, r.checkedContains? a = some (r.contains a)
  offsetOf : ∀ a, r.checkedOffsetOf? a = some (r.offsetOf? a)
  at_eq : ∀ offset, r.checkedAt? offset = some (r.at? offset)
  containsSpan : ∀ a len, r.checkedContainsSpan? a len = some (r.containsSpan a len)

theorem readsAs (r : Range space) : r.ReadsAs r.start.toNat r.len.toNat where
  stop := r.toNat_stop
  contains _ := contains_iff.trans mem_iff
  offset_iff_at _ _ := offsetOf?_eq_some_iff.trans at?_eq_some_iff.symm
  at_iff _ _ := at?_eq_some_iff
  containsSpan a len := by
    rw [containsSpan_iff, contains_iff]

theorem unwrapped (r : Range space) : r.Unwrapped where
  stop := r.checkedStop?_eq
  contains := r.checkedContains?_eq
  offsetOf := r.checkedOffsetOf?_eq
  at_eq := r.checkedAt?_eq
  containsSpan := r.checkedContainsSpan?_eq

/-- **Intervals**: a start and a length make a range if and only if the end is an address, and a
panic that names them otherwise.  The range is an interval of numbers to each operation on it, and
no operation wraps. -/
theorem ofLength_exact (start : Address space) (len : UInt64) :
    if start.toNat + len.toNat < UInt64.size then
      ∃ r : Range space, (ofLength start len : Outcome ε _) = .ok r ∧ r.start = start ∧
        r.len = len ∧ r.ReadsAs start.toNat len.toNat ∧ r.Unwrapped
    else (ofLength start len : Outcome ε _) = .panic (.rangeOverflow start.tagged len) := by
  by_cases h : start.toNat + len.toNat < UInt64.size
  · rw [if_pos h]
    exact ⟨⟨start, len, h⟩, ofLength_of_fits h, rfl, rfl, readsAs _, unwrapped _⟩
  · rw [if_neg h]
    exact ofLength_of_past (Nat.not_lt.mp h)

/-- A range of which the end is the last address.  No span is so long that it comes round. -/
example : (ofLength? (⟨0xFFFFFFFFFFFFFFF0⟩ : BusAddr) 15).map (fun r =>
    (r.contains ⟨0xFFFFFFFFFFFFFFFE⟩, r.contains r.stop,
      r.containsSpan ⟨0xFFFFFFFFFFFFFFF8⟩ 0xFFFFFFFFFFFFFFFF))
    = some (true, false, false) := by
  decide

end HugePool.Range
