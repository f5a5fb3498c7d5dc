import HugePool.Proofs.Pool.Arithmetic

/-!
# The positions of buffers

A pool places buffer number `i` by a product and a sum when it is made.  Later it finds the number
of the buffer that an address lies in by a quotient, in a range that it keeps apart from the
buffers.

* `Pool.LiesIn` says in numbers that an address lies in a buffer.  An address lies in one buffer at
  most (`Pool.LiesIn.unique`), and in one at all if and only if it lies between the start of the
  first buffer and the end of the last one (`Pool.exists_liesIn_iff`).
* `Pool.indexOf_eq_ok_iff`: the quotient is the number of the buffer.  This needs that the range
  ends with the last buffer.
* `Pool.positions_exact` is the main statement.
-/

namespace HugePool.Pool

/-- An address lies in buffer number `i`. -/
structure LiesIn (pool : Pool) (va : VirtAddr) (i : Nat) : Prop where
  lt : i < pool.geometry.bufferCount.toNat
  start_le : pool.baseVirtual.toNat + i * pool.geometry.bufferSize.toNat ≤ va.toNat
  lt_stop : va.toNat < pool.baseVirtual.toNat + (i + 1) * pool.geometry.bufferSize.toNat

section

variable {ε : Type} {pool : Pool} {va : VirtAddr}

/-- Buffers follow one another, so that an address past the start of one is past all before it. -/
theorem LiesIn.le {i j : Nat} (h : pool.LiesIn va i) (h' : pool.LiesIn va j) : i ≤ j := by
  by_contra hlt
  have hnext : (j + 1) * pool.geometry.bufferSize.toNat ≤ i * pool.geometry.bufferSize.toNat :=
    Nat.mul_le_mul_right _ (Nat.lt_of_not_le hlt)
  have hstart := h.start_le
  have hstop := h'.lt_stop
  omega

theorem LiesIn.unique {i j : Nat} (h : pool.LiesIn va i) (h' : pool.LiesIn va j) : i = j :=
  Nat.le_antisymm (h.le h') (h'.le h)

/-- The buffers leave no gap between the first start and the last end. -/
theorem exists_liesIn_iff (hpos : 0 < pool.geometry.bufferSize.toNat) :
    (∃ i, pool.LiesIn va i) ↔ pool.baseVirtual.toNat ≤ va.toNat ∧ va.toNat < pool.baseVirtual.toNat
      + pool.geometry.bufferSize.toNat * pool.geometry.bufferCount.toNat := by
  constructor
  · rintro ⟨i, hi, hstart, hstop⟩
    have hlast : (i + 1) * pool.geometry.bufferSize.toNat
        ≤ pool.geometry.bufferSize.toNat * pool.geometry.bufferCount.toNat := by
      rw [Nat.mul_comm]
      exact Nat.mul_le_mul_left _ hi
    omega
  · rintro ⟨hle, hlt⟩
    have hdiv := Nat.div_add_mod' (va.toNat - pool.baseVirtual.toNat)
      pool.geometry.bufferSize.toNat
    have hmod := Nat.mod_lt (va.toNat - pool.baseVirtual.toNat) hpos
    refine ⟨(va.toNat - pool.baseVirtual.toNat) / pool.geometry.bufferSize.toNat,
      Nat.div_lt_of_lt_mul (by omega), by omega, ?_⟩
    rw [Nat.succ_mul]
    omega

/-- The position of an address is the number of the buffer that it lies in. -/
theorem indexOf_eq_ok_iff (hpos : 0 < pool.geometry.bufferSize.toNat)
    (hlen : pool.buffers.len.toNat
      = pool.geometry.bufferSize.toNat * pool.geometry.bufferCount.toNat) {i : UInt64} :
    (pool.indexOf va : Outcome ε UInt64) = .ok i ↔ pool.LiesIn va i.toNat := by
  have hbase : pool.buffers.start = pool.baseVirtual := rfl
  -- the quotient is determined by the two multiples of the distance that the offset lies between
  have hquotient : ∀ offset : UInt64, offset / pool.geometry.bufferSize = i ↔
      i.toNat * pool.geometry.bufferSize.toNat ≤ offset.toNat ∧
        offset.toNat < (i.toNat + 1) * pool.geometry.bufferSize.toNat := by
    intro offset
    rw [← UInt64.toNat_inj, UInt64.toNat_div, Nat.div_eq_iff hpos, Nat.succ_mul]
    omega
  constructor
  · intro hindex
    rw [indexOf] at hindex
    cases hoffset : pool.buffers.offsetOf? va with
    | none =>
      rw [hoffset] at hindex
      cases hindex
    | some offset =>
      rw [hoffset] at hindex
      obtain ⟨hva, hlt⟩ := Range.offsetOf?_eq_some_iff.mp hoffset
      obtain ⟨hstart, hstop⟩ := (hquotient offset).mp (Outcome.ok.inj hindex)
      rw [hbase] at hva
      rw [hlen, Nat.mul_comm] at hlt
      exact ⟨Nat.lt_of_mul_lt_mul_right (hstart.trans_lt hlt), by omega, by omega⟩
  · intro hin
    obtain ⟨hle, hlt⟩ := (exists_liesIn_iff hpos).mp ⟨i.toNat, hin⟩
    have hmem : va ∈ pool.buffers := ⟨hle, by rw [hlen]; exact hlt⟩
    obtain ⟨offset, hoffset⟩ : ∃ offset, pool.buffers.offsetOf? va = some offset :=
      Option.isSome_iff_exists.mp (Range.contains_iff.mpr hmem)
    obtain ⟨hva, -⟩ := Range.offsetOf?_eq_some_iff.mp hoffset
    have hstart := hin.start_le
    have hstop := hin.lt_stop
    rw [hbase] at hva
    rw [indexOf, hoffset]
    exact congrArg Outcome.ok ((hquotient offset).mpr ⟨by omega, by omega⟩)

/-- An address of no buffer has no position, and asking for it panics. -/
theorem indexOf_eq_panic_iff (hpos : 0 < pool.geometry.bufferSize.toNat)
    (hlen : pool.buffers.len.toNat
      = pool.geometry.bufferSize.toNat * pool.geometry.bufferCount.toNat) :
    (pool.indexOf va : Outcome ε UInt64) = .panic (.notABuffer va pool.name) ↔
      ¬ ∃ i, pool.LiesIn va i := by
  rw [exists_liesIn_iff hpos, ← hlen]
  show _ ↔ ¬ va ∈ pool.buffers
  rw [← Range.contains_iff, Range.contains, indexOf]
  cases pool.buffers.offsetOf? va <;> simp

/-- What clients do to a pool does not move its buffers. -/
theorem Same.liesIn_iff {c : Pool} (h : pool.Same c) {i : Nat} :
    c.LiesIn va i ↔ pool.LiesIn va i := by
  have hbase : c.baseVirtual = pool.baseVirtual := congrArg Range.start h.buffers_eq
  constructor
  · rintro ⟨hi, hstart, hstop⟩
    rw [h.geometry_eq] at hi hstart hstop
    rw [hbase] at hstart hstop
    exact ⟨hi, hstart, hstop⟩
  · rintro ⟨hi, hstart, hstop⟩
    rw [← h.geometry_eq] at hi hstart hstop
    rw [← hbase] at hstart hstop
    exact ⟨hi, hstart, hstop⟩

/-- Each byte of a buffer has an address, because the mapping that it lies in ends at one. -/
theorem Intact.exists_byte (h : pool.Intact) {i d : Nat}
    (hi : i < pool.geometry.bufferCount.toNat) (hd : d < pool.geometry.bufferSize.toNat) :
    ∃ va : VirtAddr,
      va.toNat = pool.baseVirtual.toNat + i * pool.geometry.bufferSize.toNat + d := by
  have hstop : pool.geometry.bufferStart pool.region.mapping.toNat i
      + pool.geometry.bufferSize.toNat ≤ _ := h.sound.bufferStart_add_le hi
  rw [h.bufferStart_eq] at hstop
  have hfits : pool.baseVirtual.toNat + i * pool.geometry.bufferSize.toNat + d < UInt64.size :=
    calc pool.baseVirtual.toNat + i * pool.geometry.bufferSize.toNat + d
        < pool.baseVirtual.toNat + i * pool.geometry.bufferSize.toNat
          + pool.geometry.bufferSize.toNat := Nat.add_lt_add_left hd _
      _ ≤ _ := hstop
      _ < UInt64.size := h.fits
  exact ⟨⟨UInt64.ofNat _⟩, UInt64.toNat_ofNat_of_lt' hfits⟩

end

/-- **Positions**: the buffers of a pool that was made lie on its stack one after the other.
Whatever its clients do, it answers the position `i` for every byte of buffer number `i`, and it
panics just when it is asked for an address that lies in none of them.  Two addresses hence have the
same position if and only if they lie in the same buffer. -/
theorem positions_exact {κ σ ε : Type} {context : Context σ} {config : Config} {s : σ} {pool : Pool}
    (hcreate : ((context.createPool config).run s).outcome = .ok pool) {c : Pool}
    (hc : pool.InUse κ c) :
    let n := config.bufferCount.toNat
    let base := pool.baseVirtual.toNat
    let size := pool.geometry.bufferSize.toNat
    let span := fun i : Nat => Set.Ico (base + i * size) (base + (i + 1) * size)
    let index := fun va : VirtAddr => (c.indexOf va : Outcome ε UInt64)
    c.baseVirtual = pool.baseVirtual ∧ c.geometry = pool.geometry ∧
    pool.geometry.bufferCount = config.bufferCount ∧
    (pool.free.toList.map Address.toNat = (List.range n).map fun i => base + i * size) ∧
    (∀ i < n, ∀ d < size, ∃ va : VirtAddr, va.toNat = base + i * size + d ∧
      index va = .ok (UInt64.ofNat i)) ∧
    (∀ va : VirtAddr, va.toNat ∉ Set.Ico base (base + size * n) →
      index va = .panic (.notABuffer va c.name)) ∧
    (∀ va : VirtAddr, va.toNat ∈ Set.Ico base (base + size * n) →
      ∃ i, index va = .ok i ∧ i.toNat < n ∧ va.toNat ∈ span i.toNat) ∧
    ∀ va va' : VirtAddr, (∃ i, index va = .ok i ∧ index va' = .ok i) ↔
      ∃ i < n, va.toNat ∈ span i ∧ va'.toNat ∈ span i := by
  intro n base size span index
  obtain ⟨hmade, hgeometry, -, -, hhead, -⟩ := create_eq_ok hcreate
  have hsame := hc.same hmade.sound
  have hintact : c.Intact := hsame.intact hmade
  have hbase : c.baseVirtual = pool.baseVirtual := congrArg Range.start hsame.buffers_eq
  have hcount : pool.geometry.bufferCount = config.bufferCount :=
    (Geometry.compute_eq_ok (Config.compute_of_geometry hgeometry)).1
  have hall : pool.geometry.bufferCount.toNat = n := congrArg UInt64.toNat hcount
  have hpos : 0 < c.geometry.bufferSize.toNat := hintact.sound.stride_pos
  have hlen : c.buffers.len.toNat
      = c.geometry.bufferSize.toNat * c.geometry.bufferCount.toNat := by
    rw [hsame.buffers_eq, hsame.geometry_eq]
    exact buffers_len_of_create hcreate
  have hin : ∀ va i, c.LiesIn va i ↔ i < n ∧ va.toNat ∈ span i := by
    intro va i
    rw [hsame.liesIn_iff]
    constructor
    · rintro ⟨hi, hstart, hstop⟩
      exact ⟨hi.trans_eq hall, hstart, hstop⟩
    · rintro ⟨hi, hstart, hstop⟩
      exact ⟨hi.trans_eq hall.symm, hstart, hstop⟩
  have hinside : ∀ va, (∃ i, c.LiesIn va i) ↔ va.toNat ∈ Set.Ico base (base + size * n) := by
    intro va
    rw [exists_liesIn_iff hpos, hbase, hsame.geometry_eq, hcount]
    rfl
  have hposition : ∀ {va i}, i < n → va.toNat ∈ span i → index va = .ok (UInt64.ofNat i) := by
    intro va i hi hva
    apply (indexOf_eq_ok_iff hpos hlen).mpr
    rw [UInt64.toNat_ofNat_of_lt' (hi.trans config.bufferCount.toNat_lt_size)]
    exact (hin va i).mpr ⟨hi, hva⟩
  refine ⟨hbase, hsame.geometry_eq, hcount, ?_, ?_, ?_, ?_, ?_⟩
  · rw [FreeStack.toList, hhead, List.drop_zero]
    exact Custody.slots_of_create hcreate
  · intro i hi d hd
    obtain ⟨va, hva⟩ := hmade.exists_byte (hi.trans_eq hall.symm) hd
    refine ⟨va, hva, hposition hi ?_⟩
    show va.toNat ∈ Set.Ico (base + i * size) (base + (i + 1) * size)
    rw [hva, Nat.succ_mul, ← Nat.add_assoc]
    exact ⟨Nat.le_add_right _ _, Nat.add_lt_add_left hd _⟩
  · intro va hva
    exact (indexOf_eq_panic_iff hpos hlen).mpr fun h => hva ((hinside va).mp h)
  · intro va hva
    obtain ⟨i, hi⟩ := (hinside va).mpr hva
    obtain ⟨hlt, hspan⟩ := (hin va i).mp hi
    refine ⟨UInt64.ofNat i, hposition hlt hspan, ?_⟩
    rw [UInt64.toNat_ofNat_of_lt' (hlt.trans config.bufferCount.toNat_lt_size)]
    exact ⟨hlt, hspan⟩
  · intro va va'
    constructor
    · rintro ⟨i, hi, hi'⟩
      obtain ⟨hlt, hspan⟩ := (hin va _).mp ((indexOf_eq_ok_iff hpos hlen).mp hi)
      obtain ⟨-, hspan'⟩ := (hin va' _).mp ((indexOf_eq_ok_iff hpos hlen).mp hi')
      exact ⟨i.toNat, hlt, hspan, hspan'⟩
    · rintro ⟨i, hlt, hspan, hspan'⟩
      exact ⟨_, hposition hlt hspan, hposition hlt hspan'⟩

/-- Two buffers of 3000 bytes, 3008 bytes apart, of which one was taken: the last byte of the second
one, the address after that, and the two addresses where the buffers meet. -/
theorem positions_exact_last_byte :
    ∃ pool, ((Context.createPool ⟨Script.platform {}, none⟩ ⟨"rx", {}, 3000, 2, 64⟩).run
        (Script.start {})).outcome = .ok pool ∧
      let c := (pool.serve (.allocate 1 : Call Nat)).2
      (∃ va : VirtAddr, va.toNat = 4294977407 ∧
        (c.indexOf va : Outcome StackError UInt64) = .ok 1) ∧
      (c.indexOf ⟨4294977408⟩ : Outcome StackError UInt64)
        = .panic (.notABuffer ⟨4294977408⟩ "rx") ∧
      ¬ ∃ i, (c.indexOf ⟨4294974399⟩ : Outcome StackError UInt64) = .ok i ∧
        (c.indexOf ⟨4294974400⟩ : Outcome StackError UInt64) = .ok i := by
  obtain ⟨pool, hcreate, hname, hbase, hsize⟩ : ∃ pool,
      ((Context.createPool ⟨Script.platform {}, none⟩ ⟨"rx", {}, 3000, 2, 64⟩).run
        (Script.start {})).outcome = .ok pool ∧
      (pool.serve (.allocate 1 : Call Nat)).2.name = "rx" ∧ pool.baseVirtual.toNat = 4294971392 ∧
      pool.geometry.bufferSize.toNat = 3008 := ⟨_, rfl, rfl, rfl, rfl⟩
  obtain ⟨-, -, -, -, hbytes, houtside, -, hmeet⟩ :=
    positions_exact (ε := StackError) hcreate (.served pool (.allocate (1 : Nat)) .new)
  rw [hbase, hsize] at hbytes houtside hmeet
  refine ⟨pool, hcreate, hbytes 1 (by decide) 3007 (by decide), ?_, fun hsame => ?_⟩
  · exact hname ▸ houtside ⟨4294977408⟩ fun hin => absurd hin.2 (by decide)
  · obtain ⟨i, -, hfirst, hsecond⟩ := (hmeet ⟨4294974399⟩ ⟨4294974400⟩).mp hsame
    have hend : 4294974399 < 4294971392 + (i + 1) * 3008 := hfirst.2
    have hstart : 4294971392 + i * 3008 ≤ 4294974399 := hfirst.1
    have hend' : 4294974400 < 4294971392 + (i + 1) * 3008 := hsecond.2
    omega

end HugePool.Pool
