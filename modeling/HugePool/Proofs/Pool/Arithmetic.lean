import HugePool.Proofs.Address.Checked
import HugePool.Proofs.Pool.Lengths
import HugePool.Proofs.Pool.Spans

/-!
# Nothing wraps

Where a pool adds, subtracts, multiplies or divides, the exact result is a word, up to the last
pages of the address space.  While a pool is made the sums are checked, so that this says that none
of the checks fails (`Geometry.Addressed`, `Pool.create_breaks`).  The operations on a pool compute
without checks.  Each of them is written here a second time with partial operations on words, like
those on ranges, and `Pool.Unwrapped` says that the second form has an answer, the same one.

* `PageRecord.checkedToBus?_eq`, `PageRecord.checkedToVirtual?_eq`: because both ranges of a record
  end at an address.
* `Pool.checkedMapSpan?_eq`, `Pool.checkedUnmapSpan?_eq`: because an offset into the one range of a
  record is an offset into the other one.
* `FreeStack.checkedPop?_eq`, `FreeStack.checkedPush?_eq`: because the stack has no more slots than
  there are words, and `head` is not past their end.
* `Pool.arithmetic_safe` is the main statement.
-/

namespace HugePool

variable {σ κ : Type}

/-! ### Making a pool -/

/-- Every address that is computed while a pool is made exists: where the pages start and end, where
the buffers start, and where they end. -/
structure Geometry.Addressed (g : Geometry) (payload : UInt64) (mapping : VirtAddr) : Prop where
  page : ∀ k < g.hugePages.toNat, ∃ distance virt range,
    Word.mul? (UInt64.ofNat k) hugePageSize = some distance ∧
      mapping.add? distance = some virt ∧ Range.ofLength? virt hugePageSize = some range
  buffers : ∃ start range, mapping.add? g.headerOffset = some start ∧
    Range.ofLength? start payload = some range ∧
    ∀ i < g.bufferCount.toNat, ∃ distance va,
      Word.mul? (UInt64.ofNat i) g.bufferSize = some distance ∧ start.add? distance = some va

/-- Neither the product nor the sum wraps, if the result is an address. -/
theorem Address.exists_add? (start : VirtAddr) (stride : UInt64) {i : Nat}
    (hi : i < UInt64.size) (hfit : start.toNat + i * stride.toNat < UInt64.size) :
    ∃ distance a, Word.mul? (UInt64.ofNat i) stride = some distance ∧
      start.add? distance = some a ∧ a.toNat = start.toNat + i * stride.toNat := by
  obtain ⟨a, hbuffer, hnat⟩ := Pool.bufferAt_eq_ok (ε := Empty) start stride i hi hfit
  obtain ⟨distance, hmul, hadd⟩ := Outcome.bind_eq_ok_iff.mp hbuffer
  exact ⟨distance, a, Outcome.orPanic_eq_ok_iff.mp hmul, Outcome.orPanic_eq_ok_iff.mp hadd, hnat⟩

theorem Range.exists_ofLength? {space : Space} (start : Address space) (len : UInt64)
    (h : start.toNat + len.toNat < UInt64.size) : ∃ range, ofLength? start len = some range := by
  rw [ofLength?, dif_pos h]
  exact ⟨_, rfl⟩

theorem Geometry.Sound.addressed {g : Geometry} (hg : g.Sound) {payload : UInt64}
    (hpayload : payload.toNat = g.bufferSize.toNat * g.bufferCount.toNat) {mapping : VirtAddr}
    (hfit : mapping.toNat + g.hugePages.toNat * hugePageSize.toNat < UInt64.size) :
    g.Addressed payload mapping where
  page k hk := by
    have hnext : (k + 1) * hugePageSize.toNat ≤ g.hugePages.toNat * hugePageSize.toNat :=
      Nat.mul_le_mul_right _ hk
    rw [Nat.succ_mul] at hnext
    obtain ⟨distance, virt, hmul, hadd, hvirt⟩ := mapping.exists_add? hugePageSize
      (hk.trans g.hugePages.toNat_lt_size) (by omega)
    obtain ⟨range, hrange⟩ := Range.exists_ofLength? virt hugePageSize (by omega)
    exact ⟨distance, virt, range, hmul, hadd, hrange⟩
  buffers := by
    have hwhole := hg.whole
    rw [toNat_hugePageSize] at hfit
    obtain ⟨start, slots, hstart, hnat, -⟩ := Pool.bufferAddrs_of_sound (ε := Empty) hg hfit
    obtain ⟨range, hrange⟩ := Range.exists_ofLength? start payload (by omega)
    refine ⟨start, range, Outcome.orPanic_eq_ok_iff.mp hstart, hrange, fun i hi => ?_⟩
    have hlast : i * g.bufferSize.toNat ≤ g.bufferSize.toNat * g.bufferCount.toNat := by
      rw [Nat.mul_comm]
      exact Nat.mul_le_mul_left _ (Nat.le_of_lt hi)
    obtain ⟨distance, va, hmul, hadd, -⟩ := start.exists_add? g.bufferSize
      (hi.trans g.bufferCount.toNat_lt_size) (by omega)
    exact ⟨distance, va, hmul, hadd⟩

/-! ### Pages -/

namespace PageRecord

/-- `busRange` as a range whose end is looked at. -/
def checkedBusRange? (r : PageRecord) : Option (Range .bus) := Range.ofLength? r.bus hugePageSize

def checkedToBus? (r : PageRecord) (va : VirtAddr) : Option (Option BusAddr) := do
  match ← r.virtRange.checkedOffsetOf? va with
  | some offset => (← r.checkedBusRange?).checkedAt? offset
  | none => some none

def checkedToVirtual? (r : PageRecord) (bus : BusAddr) : Option (Option VirtAddr) := do
  match ← (← r.checkedBusRange?).checkedOffsetOf? bus with
  | some offset => r.virtRange.checkedAt? offset
  | none => some none

theorem checkedBusRange?_eq (r : PageRecord) : r.checkedBusRange? = some r.busRange :=
  Range.ofLength?_eq_some_iff.mpr ⟨rfl, rfl⟩

theorem checkedToBus?_eq (r : PageRecord) (va : VirtAddr) :
    r.checkedToBus? va = some (r.toBus? va) := by
  rw [checkedToBus?, Range.checkedOffsetOf?_eq, toBus?, checkedBusRange?_eq]
  cases r.virtRange.offsetOf? va with
  | none => rfl
  | some offset => exact r.busRange.checkedAt?_eq offset

theorem checkedToVirtual?_eq (r : PageRecord) (bus : BusAddr) :
    r.checkedToVirtual? bus = some (r.toVirtual? bus) := by
  rw [checkedToVirtual?, checkedBusRange?_eq, toVirtual?]
  show (r.busRange.checkedOffsetOf? bus).bind _ = _
  rw [Range.checkedOffsetOf?_eq]
  cases r.busRange.offsetOf? bus with
  | none => rfl
  | some offset => exact r.virtRange.checkedAt?_eq offset

end PageRecord

namespace PageTable

def checkedToBus? (t : PageTable) (va : VirtAddr) : Option (Option BusAddr) :=
  t.records.findSomeM? (·.checkedToBus? va)

def checkedToVirtual? (t : PageTable) (bus : BusAddr) : Option (Option VirtAddr) :=
  t.records.findSomeM? (·.checkedToVirtual? bus)

def checkedPageOfSpan? (t : PageTable) (va : VirtAddr) (len : UInt64) :
    Option (Option PageRecord) :=
  t.records.findM? (·.virtRange.checkedContainsSpan? va len)

theorem checkedToBus?_eq (t : PageTable) (va : VirtAddr) :
    t.checkedToBus? va = some (t.toBus? va) := by
  simp only [checkedToBus?, PageRecord.checkedToBus?_eq]
  exact List.findSomeM?_pure

theorem checkedToVirtual?_eq (t : PageTable) (bus : BusAddr) :
    t.checkedToVirtual? bus = some (t.toVirtual? bus) := by
  simp only [checkedToVirtual?, PageRecord.checkedToVirtual?_eq]
  exact List.findSomeM?_pure

theorem checkedPageOfSpan?_eq (t : PageTable) (va : VirtAddr) (len : UInt64) :
    t.checkedPageOfSpan? va len = some (t.pageOfSpan? va len) := by
  simp only [checkedPageOfSpan?, Range.checkedContainsSpan?_eq]
  exact List.findM?_pure _ _

end PageTable

/-! ### The stack of free buffers -/

namespace FreeStack

/-- `pop`, where the next `head` has to be a word. -/
def checkedPop? (s : FreeStack) : Option (Except StackError (VirtAddr × FreeStack)) :=
  match s.slots[s.head]? with
  | none => some (.error .exhausted)
  | some va =>
    if s.head + 1 < UInt64.size then some (.ok (va, { s with head := s.head + 1 })) else none

/-- `push`, where the slot before `head` has to exist. -/
def checkedPush? (s : FreeStack) (va : VirtAddr) : Option (Except StackError FreeStack) :=
  match s.refusal? with
  | some cause => some (.error cause)
  | none => if 1 ≤ s.head ∧ s.head - 1 < s.slots.size then some (.ok (s.put va)) else none

theorem checkedPop?_eq {s : FreeStack} (h : s.capacity < UInt64.size) :
    s.checkedPop? = some s.pop := by
  rw [capacity] at h
  rw [checkedPop?, pop]
  by_cases hlt : s.head < s.slots.size
  · have hsize : s.head + 1 < UInt64.size := by omega
    rw [Array.getElem?_eq_getElem hlt, dif_pos hlt]
    exact if_pos hsize
  · rw [Array.getElem?_eq_none (Nat.not_lt.mp hlt), dif_neg hlt]

theorem checkedPush?_eq (s : FreeStack) (va : VirtAddr) : s.checkedPush? va = some (s.push va) := by
  rw [checkedPush?, push]
  cases h : s.refusal? with
  | some cause => rfl
  | none =>
    obtain ⟨hne, hle⟩ := refusal?_eq_none_iff.mp h
    rw [capacity] at hle
    have hslot : 1 ≤ s.head ∧ s.head - 1 < s.slots.size := by omega
    exact if_pos hslot

end FreeStack

/-! ### Pools -/

namespace Pool

def checkedMapSpan? (pool : Pool) (va : VirtAddr) (len : UInt64) :
    Option (Except SpanError BusAddr) := do
  let refusal : Except SpanError BusAddr := .error ⟨va.word, len⟩
  if ← pool.buffers.checkedContainsSpan? va len then
    match ← pool.table.checkedPageOfSpan? va len with
    | none => some refusal
    | some record =>
      match ← record.virtRange.checkedOffsetOf? va with
      | none => some refusal
      | some offset => (record.bus.add? offset).map .ok
  else some refusal

def checkedUnmapSpan? (pool : Pool) (bus : BusAddr) (len : UInt64) :
    Option (Except SpanError Unit) := do
  let refusal : Except SpanError Unit := .error ⟨bus.word, len⟩
  match ← pool.table.checkedToVirtual? bus with
  | none => some refusal
  | some va =>
    let inside ← pool.buffers.checkedContainsSpan? va len
    let page ← pool.table.checkedPageOfSpan? va len
    some (if inside && page.isSome then .ok () else refusal)

/-- `indexOf`, where the distance between buffers has to be one that can be divided by. -/
def checkedIndexOf? (pool : Pool) (va : VirtAddr) : Option (Option UInt64) := do
  match ← pool.buffers.checkedOffsetOf? va with
  | some offset => (Word.div? offset pool.geometry.bufferSize).map some
  | none => some none

section

variable {pool : Pool}

theorem checkedMapSpan?_eq (va : VirtAddr) (len : UInt64) (direction : Direction) (t : σ) :
    ∃ answer, pool.checkedMapSpan? va len = some answer ∧
      ((pool.mapSpan va len direction).run t).outcome = .ofExcept answer := by
  rw [checkedMapSpan?, Range.checkedContainsSpan?_eq, PageTable.checkedPageOfSpan?_eq]
  cases hpage : pool.pageFor? va len with
  | none =>
    refine ⟨.error ⟨va.word, len⟩, ?_, congrArg Trace.outcome (run_mapSpan_of_none hpage)⟩
    unfold pageFor? at hpage
    cases hinside : pool.buffers.containsSpan va len with
    | false => rfl
    | true =>
      rw [hinside, if_pos rfl] at hpage
      rw [hpage]
      rfl
  | some r =>
    obtain ⟨bus, hbus, hrun⟩ := run_mapSpan_of_some hpage direction t
    refine ⟨.ok bus, ?_, congrArg Trace.outcome hrun⟩
    -- the offset that is added is the one at which `toBus?` finds the bus address
    obtain ⟨offset, hoffset⟩ : ∃ offset, r.virtRange.offsetOf? va = some offset :=
      Option.isSome_iff_exists.mp
        (Range.contains_iff.mpr (Range.containsSpan_iff.mp (containsSpan_of_pageFor? hpage)).1)
    rw [PageRecord.toBus?_of_offsetOf? hoffset] at hbus
    unfold pageFor? at hpage
    cases hinside : pool.buffers.containsSpan va len with
    | false =>
      rw [hinside] at hpage
      cases hpage
    | true =>
      rw [hinside, if_pos rfl] at hpage
      simp only [hpage, Option.bind_eq_bind, Option.bind_some, if_true,
        Range.checkedOffsetOf?_eq, hoffset, hbus, Option.map_some]

theorem checkedUnmapSpan?_eq (bus : BusAddr) (len : UInt64) (direction : Direction) (t : σ) :
    ∃ answer, pool.checkedUnmapSpan? bus len = some answer ∧
      ((pool.unmapSpan bus len direction).run t).outcome = .ofExcept answer := by
  rw [checkedUnmapSpan?, PageTable.checkedToVirtual?_eq, unmapSpan, toVirtual?]
  cases pool.table.toVirtual? bus with
  | none => exact ⟨.error ⟨bus.word, len⟩, rfl, rfl⟩
  | some va =>
    simp only [Option.bind_eq_bind, Option.bind_some, Range.checkedContainsSpan?_eq,
      PageTable.checkedPageOfSpan?_eq]
    refine ⟨_, rfl, ?_⟩
    split <;> rfl

theorem checkedIndexOf?_eq (hstride : pool.geometry.bufferSize ≠ 0) (va : VirtAddr) :
    pool.checkedIndexOf? va
      = some ((pool.buffers.offsetOf? va).map (· / pool.geometry.bufferSize)) := by
  rw [checkedIndexOf?, Range.checkedOffsetOf?_eq]
  cases pool.buffers.offsetOf? va with
  | none => rfl
  | some offset =>
    simp only [Option.bind_eq_bind, Option.bind_some, Word.div?_of_ne_zero hstride, Option.map_some]

/-- An address has a position if it lies among the buffers. -/
theorem exists_indexOf_iff {ε : Type} {va : VirtAddr} :
    (∃ i, (pool.indexOf va : Outcome ε UInt64) = .ok i) ↔ va ∈ pool.buffers := by
  rw [← Range.contains_iff, Range.contains, indexOf]
  cases pool.buffers.offsetOf? va <;> simp

/-- Returning a buffer does not panic, whatever address it has. -/
theorem giveBack_settled (va : VirtAddr) : ((giveBack va).run pool).outcome.Settled := by
  obtain ⟨free, answer, hrun⟩ := pool.run_giveBack_frame va
  rw [hrun]
  cases answer <;> trivial

/-- Taking a buffer panics when its address is in none of the huge pages. -/
theorem outcome_allocate_cases : (allocate.run pool).outcome.Settled ∨
    (allocate.run pool).outcome = .panic (.directoryCorrupt pool.name) ∧
      ∃ top rest, pool.free.pop = .ok (top, rest) ∧
        ∀ r ∈ pool.hugePages, top.toNat ∉ r.virtSpan := by
  show (allocate pool).outcome.Settled ∨ (allocate pool).outcome = _ ∧ _
  rw [allocate]
  rcases pool.free.pop with cause | ⟨top, rest⟩
  · exact Or.inl trivial
  · cases hbus : pool.toBus? top with
    | some bus =>
      simp only [hbus]
      exact Or.inl trivial
    | none =>
      simp only [hbus]
      exact Or.inr ⟨trivial, top, rest, rfl, toBus?_eq_none_iff.mp hbus⟩

end

/-! ### Pools in use -/

/-- No operation on the pool computes anything that is not a word.  Only two of them ever panic:
asking for the position of an address that is not among the buffers, and taking a buffer whose
address is in none of the huge pages. -/
structure Unwrapped (pool : Pool) : Prop where
  toBus : ∀ va, pool.table.checkedToBus? va = some (pool.toBus? va)
  toVirtual : ∀ bus, pool.table.checkedToVirtual? bus = some (pool.toVirtual? bus)
  busRange : ∀ r ∈ pool.hugePages, r.checkedBusRange? = some r.busRange ∧
    r.busRange.checkedStop? = some r.busRange.stop
  mapSpan : ∀ va len direction (σ : Type) (t : σ), ∃ answer,
    pool.checkedMapSpan? va len = some answer ∧
      ((pool.mapSpan va len direction).run t).outcome = .ofExcept answer
  unmapSpan : ∀ bus len direction (σ : Type) (t : σ), ∃ answer,
    pool.checkedUnmapSpan? bus len = some answer ∧
      ((pool.unmapSpan bus len direction).run t).outcome = .ofExcept answer
  push : ∀ va, pool.free.checkedPush? va = some (pool.free.push va)
  giveBack : ∀ va, ((giveBack va).run pool).outcome.Settled
  index : ∀ va, pool.checkedIndexOf? va
    = some ((pool.buffers.offsetOf? va).map (· / pool.geometry.bufferSize))
  indexOf : ∀ va (ε : Type), (∃ i, (pool.indexOf va : Outcome ε UInt64) = .ok i) ↔
    pool.baseVirtual.toNat ≤ va.toNat ∧ va.toNat < pool.baseVirtual.toNat
      + pool.geometry.bufferSize.toNat * pool.geometry.bufferCount.toNat
  pop : pool.free.checkedPop? = some pool.free.pop
  allocate : (allocate.run pool).outcome.Settled ∨
    (allocate.run pool).outcome = .panic (.directoryCorrupt pool.name) ∧
      ∃ top rest, pool.free.pop = .ok (top, rest) ∧ ∀ r ∈ pool.hugePages, top.toNat ∉ r.virtSpan

/-- The stack has as many slots as when the pool was made. -/
theorem InUse.capacity_eq {pool c : Pool} (hhead : pool.free.head ≤ pool.free.capacity)
    (h : pool.InUse κ c) :
    c.free.capacity = pool.free.capacity ∧ c.free.head ≤ c.free.capacity := by
  induction h with
  | new => exact ⟨rfl, hhead⟩
  | served c call _ ih =>
    obtain ⟨-, hleft⟩ := (Restacked.refl ih.2).step_serve call
    exact ⟨hleft.capacity.trans ih.1, hleft.head_le⟩
  | written c i hi va len f hstart hend _ ih => exact ih

theorem unwrapped_of_intact {pool : Pool} (h : pool.Intact)
    (hlen : pool.buffers.len.toNat
      = pool.geometry.bufferSize.toNat * pool.geometry.bufferCount.toNat)
    (hcapacity : pool.free.capacity < UInt64.size) : pool.Unwrapped where
  toBus := pool.table.checkedToBus?_eq
  toVirtual := pool.table.checkedToVirtual?_eq
  busRange r _ := ⟨r.checkedBusRange?_eq, r.busRange.checkedStop?_eq⟩
  mapSpan va len direction _ t := checkedMapSpan?_eq va len direction t
  unmapSpan bus len direction _ t := checkedUnmapSpan?_eq bus len direction t
  push := pool.free.checkedPush?_eq
  giveBack := giveBack_settled
  index := by
    refine checkedIndexOf?_eq fun hzero => ?_
    have hpos := h.sound.stride_pos
    rw [hzero] at hpos
    exact Nat.lt_irrefl 0 hpos
  indexOf va _ := by
    rw [exists_indexOf_iff, Range.mem_iff, hlen]
    rfl
  pop := FreeStack.checkedPop?_eq hcapacity
  allocate := outcome_allocate_cases

/-- **Arithmetic**: whenever a geometry is computed, its lengths are words, and every address that
is needed exists as long as the mapping ends at one.  Making the pool then breaks off only because
of what its mapper refuses, and no operation on it computes anything that is not a word, whatever
its clients have done and whatever addresses and lengths they ask about. -/
theorem arithmetic_safe {size count alignment : UInt64} {g : Geometry}
    (h : Geometry.compute size count alignment = .ok g) :
    ∃ payload len : UInt64, (g.payloadLen : Outcome CreateError UInt64) = .ok payload ∧
      (g.mappedLen : Outcome CreateError UInt64) = .ok len ∧
      (∀ mapping : VirtAddr, mapping.toNat + len.toNat < UInt64.size →
        g.Addressed payload mapping) ∧
      ∀ (context : Context σ) (config : Config) (s : σ), config.geometry = .ok g →
        (∀ mapping, (context.platform.mapPages len s).1.answer = .ok mapping →
          hugePageSize.toNat ∣ mapping.toNat ∧ mapping.toNat + len.toNat < UInt64.size) →
        ((context.createPool config).run s).Breaks True True ∧
        ∀ pool, ((context.createPool config).run s).outcome = .ok pool →
          ∀ c, pool.InUse κ c → c.Unwrapped := by
  have hg : g.Sound := (Geometry.compute_eq_ok h).2.2.2
  obtain ⟨payload, hpayload, hpayload_nat⟩ := hg.payloadLen_eq_ok (ε := CreateError)
  obtain ⟨len, hlen, hlen_nat⟩ := hg.mappedLen_eq_ok (ε := CreateError)
  refine ⟨payload, len, hpayload, hlen, fun mapping hfit => ?_, ?_⟩
  · rw [hlen_nat] at hfit
    exact hg.addressed hpayload_nat hfit
  intro context config s hgeometry hpages
  refine ⟨create_breaks context.platform context.mapper config s ?_, fun pool hcreate c hc => ?_⟩
  · intro g' len' mapping hgeometry' hlen' hanswer
    cases Outcome.ok.inj (hgeometry.symm.trans hgeometry')
    cases Outcome.ok.inj (hlen.symm.trans hlen')
    exact hpages mapping hanswer
  obtain ⟨hintact, -, -, -, hhead, -⟩ := create_eq_ok hcreate
  have hsame := hc.same hintact.sound
  obtain ⟨hcapacity, -⟩ := hc.capacity_eq (hhead ▸ Nat.zero_le _)
  refine unwrapped_of_intact (hsame.intact hintact) ?_ ?_
  · rw [hsame.buffers_eq, hsame.geometry_eq]
    exact buffers_len_of_create hcreate
  · rw [hcapacity, Custody.capacity_of_create hcreate]
    exact config.bufferCount.toNat_lt_size

/-- The last huge page that ends at an address, with two buffers in it. -/
theorem arithmetic_safe_last_page :
    Geometry.Addressed ⟨64, 2, 64, 4096, 1⟩ 128 ⟨18446744073705357312⟩ ∧
    ∃ pool, ((Context.createPool
        ⟨Script.platform { pages := .fixed 18446744073705357312 [] false }, none⟩
        ⟨"rx", {}, 64, 2, 64⟩).run
          (Script.start { pages := .fixed 18446744073705357312 [] false })).outcome = .ok pool ∧
      pool.Unwrapped := by
  have h : Geometry.compute 64 2 64 = .ok ⟨64, 2, 64, 4096, 1⟩ := by decide
  have hrequest : Config.geometry ⟨"rx", {}, 64, 2, 64⟩ = .ok ⟨64, 2, 64, 4096, 1⟩ := by decide
  obtain ⟨payload, len, hpayload, hlen, haddressed, hpools⟩ :=
    arithmetic_safe (σ := ScriptState) (κ := Nat) h
  have hpayload' : payload = 128 := Outcome.ok.inj (hpayload.symm.trans (by decide))
  have hlen' : len = 2097152 := Outcome.ok.inj (hlen.symm.trans (by decide))
  subst hpayload' hlen'
  obtain ⟨pool, hcreate⟩ : ∃ pool, ((Context.createPool
      ⟨Script.platform { pages := .fixed 18446744073705357312 [] false }, none⟩
      ⟨"rx", {}, 64, 2, 64⟩).run
        (Script.start { pages := .fixed 18446744073705357312 [] false })).outcome = .ok pool :=
    ⟨_, rfl⟩
  refine ⟨haddressed _ (by decide), pool, hcreate, ?_⟩
  obtain ⟨-, hmade⟩ := hpools
    ⟨Script.platform { pages := .fixed 18446744073705357312 [] false }, none⟩ _
    (Script.start { pages := .fixed 18446744073705357312 [] false }) hrequest (by
      intro mapping hanswer
      cases hanswer
      decide)
  exact hmade pool hcreate pool .new

end Pool

end HugePool
