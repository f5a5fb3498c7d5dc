import HugePool.Address.Range

/-!
# Ranges without wrapping

The operations on ranges add and subtract words.  Each of them is written here a second time with
partial sums and differences, so that `none` as a whole means that an intermediate result is not a
word.  This never happens: a range ends at an address (`Range.fits`), and an offset is only used
where it is less than the length.

* `Range.checkedStop?_eq`, `Range.checkedOffsetOf?_eq`, `Range.checkedContains?_eq`,
  `Range.checkedAt?_eq` and `Range.checkedContainsSpan?_eq` say that the results are those of the
  operations themselves.
-/

namespace HugePool

/-- `a - b`, or `none` when it is below zero. -/
def Word.sub? (a b : UInt64) : Option UInt64 := if b ≤ a then some (a - b) else none

/-- `a / b`, or `none` when there is nothing to divide by. -/
def Word.div? (a b : UInt64) : Option UInt64 := if b = 0 then none else some (a / b)

theorem Word.sub?_of_le {a b : UInt64} (h : b ≤ a) : Word.sub? a b = some (a - b) := if_pos h

theorem Word.div?_of_ne_zero {a b : UInt64} (h : b ≠ 0) : Word.div? a b = some (a / b) := if_neg h

namespace Range

variable {space : Space}

/-- `stop` with a partial sum. -/
def checkedStop? (r : Range space) : Option (Address space) := r.start.add? r.len

/-- `offsetOf?` with a partial difference. -/
def checkedOffsetOf? (r : Range space) (a : Address space) : Option (Option UInt64) :=
  if r.start.word ≤ a.word then
    (Word.sub? a.word r.start.word).map fun offset => if offset < r.len then some offset else none
  else some none

/-- `contains` with a partial difference. -/
def checkedContains? (r : Range space) (a : Address space) : Option Bool :=
  (r.checkedOffsetOf? a).map Option.isSome

/-- `at?` with a partial sum. -/
def checkedAt? (r : Range space) (offset : UInt64) : Option (Option (Address space)) :=
  if offset < r.len then (r.start.add? offset).map some else some none

/-- `containsSpan` with partial differences. -/
def checkedContainsSpan? (r : Range space) (a : Address space) (len : UInt64) : Option Bool := do
  match ← r.checkedOffsetOf? a with
  | some offset => (Word.sub? r.len offset).map fun room => decide (len ≤ room)
  | none => some false

theorem checkedStop?_eq (r : Range space) : r.checkedStop? = some r.stop :=
  Address.add?_eq_some_iff.mpr r.toNat_stop

theorem checkedOffsetOf?_eq (r : Range space) (a : Address space) :
    r.checkedOffsetOf? a = some (r.offsetOf? a) := by
  unfold checkedOffsetOf? offsetOf?
  split
  · rename_i hle
    rw [Word.sub?_of_le hle]
    rfl
  · rfl

theorem checkedContains?_eq (r : Range space) (a : Address space) :
    r.checkedContains? a = some (r.contains a) := by
  rw [checkedContains?, checkedOffsetOf?_eq]
  rfl

theorem checkedAt?_eq (r : Range space) (offset : UInt64) :
    r.checkedAt? offset = some (r.at? offset) := by
  unfold checkedAt?
  split
  · rename_i hlt
    obtain ⟨a, ha⟩ : ∃ a, r.at? offset = some a := by
      rw [at?, if_pos hlt]
      exact ⟨_, rfl⟩
    rw [ha, Address.add?_eq_some_iff.mpr (at?_eq_some_iff.mp ha).1]
    rfl
  · rename_i hge
    rw [at?, if_neg hge]

theorem checkedContainsSpan?_eq (r : Range space) (a : Address space) (len : UInt64) :
    r.checkedContainsSpan? a len = some (r.containsSpan a len) := by
  rw [checkedContainsSpan?, checkedOffsetOf?_eq, containsSpan]
  cases h : r.offsetOf? a with
  | none => rfl
  | some offset =>
    have hlt : offset.toNat < r.len.toNat := (offsetOf?_eq_some_iff.mp h).2
    have hle : offset ≤ r.len := UInt64.le_iff_toNat_le.mpr (Nat.le_of_lt hlt)
    simp only [Option.bind_eq_bind, Option.bind_some, Word.sub?_of_le hle, Option.map_some]

end Range

end HugePool
