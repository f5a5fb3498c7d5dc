import HugePool.Platform.Scripted
import HugePool.Proofs.Pool.Creation
import Mathlib.Data.List.Perm.Basic
import Mathlib.Data.List.Nodup

/-!
# Who holds the buffers of a pool

Clients take buffers from a pool and give them back, in any order.  A `Custody` is the pool with the
buffers that are held, each with the client who took it.  The clients are `Honest` as long as nobody
gives an address back that is not held; anybody may give back what somebody else took.

`Custody.Kept` is what every honest call preserves (`Kept.after`): the addresses on the free stack
and those that are held are together the ones that the new pool had on its stack, in some order.
The slots before `head` are no part of it, whatever old addresses they still hold.  How many buffers
are out is then told by `head` alone (`Kept.head_eq`), and this is what decides every answer: the
stack is exhausted when `head` is at its end, and it refuses an address when `head` is at its start.
-/

namespace HugePool

variable {κ : Type}

/-- A call of a client to a pool. -/
inductive Call (κ : Type) where
  | allocate (client : κ)
  | giveBack (client : κ) (va : VirtAddr)

/-- A pool and the buffers that its clients hold. -/
structure Custody (κ : Type) where
  pool : Pool
  held : List (κ × Buffer) := []

namespace Custody

/-- The addresses of the buffers that are held. -/
def addresses (c : Custody κ) : List VirtAddr := c.held.map (·.2.virt)

/-- What a call leaves. -/
def after (c : Custody κ) : Call κ → Custody κ
  | .allocate client =>
    let t := Pool.allocate.run c.pool
    match t.outcome with
    | .ok buffer => ⟨t.state, (client, buffer) :: c.held⟩
    | _ => ⟨t.state, c.held⟩
  | .giveBack _ va =>
    let t := (Pool.giveBack va).run c.pool
    match t.outcome with
    | .ok _ => ⟨t.state, c.held.eraseP (·.2.virt = va)⟩
    | _ => ⟨t.state, c.held⟩

/-- What a sequence of calls leaves. -/
def afterAll (c : Custody κ) (calls : List (Call κ)) : Custody κ := calls.foldl after c

/-- A call gives back nothing that is not held. -/
def Permits (c : Custody κ) : Call κ → Prop
  | .allocate _ => True
  | .giveBack _ va => va ∈ c.addresses

/-- Only addresses that are held are given back. -/
def Honest (c : Custody κ) : List (Call κ) → Prop
  | [] => True
  | call :: rest => c.Permits call ∧ (c.after call).Honest rest

/-- Nothing is lost or held twice, compared to a new pool. -/
structure Kept (pool : Pool) (c : Custody κ) : Prop where
  frame : c.pool = { pool with free := c.pool.free }
  capacity : c.pool.free.capacity = pool.free.capacity
  head_le : c.pool.free.head ≤ c.pool.free.capacity
  perm : (c.pool.free.toList ++ c.addresses).Perm pool.free.slots.toList

/-! ### What the stack says -/

namespace Kept

variable {pool : Pool} {c : Custody κ}

theorem new (h : pool.free.head = 0) : Kept pool (⟨pool, []⟩ : Custody κ) where
  frame := rfl
  capacity := rfl
  head_le := h ▸ Nat.zero_le _
  perm := by simp [addresses, FreeStack.toList, h]

theorem geometry_eq (h : Kept pool c) : c.pool.geometry = pool.geometry := by
  rw [h.frame]

theorem toBus?_eq (h : Kept pool c) (va : VirtAddr) : c.pool.toBus? va = pool.toBus? va := by
  rw [h.frame]
  rfl

/-- The first slot that is in use tells how many buffers are out. -/
theorem head_eq (h : Kept pool c) : c.pool.free.head = c.held.length := by
  have hlen := h.perm.length_eq
  have hcap := h.capacity
  have hle := h.head_le
  rw [List.length_append, FreeStack.length_toList, FreeStack.available, addresses,
    List.length_map, Array.length_toList] at hlen
  simp only [FreeStack.capacity] at hcap hle hlen
  omega

theorem held_le (h : Kept pool c) : c.held.length ≤ pool.free.capacity := by
  rw [← h.head_eq, ← h.capacity]
  exact h.head_le

theorem available_eq (h : Kept pool c) :
    c.pool.available = pool.free.capacity - c.held.length := by
  rw [Pool.available, FreeStack.available, h.capacity, h.head_eq]

/-- With all buffers out, none can be taken. -/
theorem allocate_of_full (h : Kept pool c) (hfull : c.held.length = pool.free.capacity) :
    Pool.allocate.run c.pool = ⟨[], c.pool, .error .exhausted⟩ := by
  have hpop : c.pool.free.pop = .error .exhausted := by
    rw [FreeStack.pop, dif_neg]
    have hhead := h.head_eq
    have hcap := h.capacity
    simp only [FreeStack.capacity] at hcap hfull
    omega
  show Pool.allocate c.pool = _
  rw [Pool.allocate, hpop]

/-- An address that is held can be given back. -/
theorem giveBack_of_mem (h : Kept pool c) {va : VirtAddr} (hva : va ∈ c.addresses) :
    (Pool.giveBack va).run c.pool = ⟨[], { c.pool with free := c.pool.free.put va }, .ok ()⟩ ∧
    (c.pool.free.put va).toList = va :: c.pool.free.toList := by
  have hpos : 0 < c.held.length := by
    rw [← List.length_map (f := (·.2.virt))]
    exact List.length_pos_of_mem hva
  have hnone : c.pool.free.refusal? = none :=
    FreeStack.refusal?_eq_none_iff.mpr ⟨by rw [h.head_eq]; omega, h.head_le⟩
  constructor
  · show Pool.giveBack va c.pool = _
    rw [Pool.giveBack, hnone]
  · apply FreeStack.toList_push
    rw [FreeStack.push, hnone]

end Kept

/-! ### What a call preserves -/

/-- Taking a held address out of those that are held. -/
theorem perm_eraseP {held : List (κ × Buffer)} {va : VirtAddr} (h : va ∈ held.map (·.2.virt)) :
    (held.map (·.2.virt)).Perm (va :: (held.eraseP (·.2.virt = va)).map (·.2.virt)) := by
  obtain ⟨entry, hmem, hva⟩ := List.mem_map.mp h
  obtain ⟨found, before, behind, -, hfound, hheld, herase⟩ :=
    List.exists_of_eraseP hmem (p := (·.2.virt = va)) (decide_eq_true hva)
  rw [herase, hheld, List.map_append, List.map_append, List.map_cons, of_decide_eq_true hfound]
  exact List.perm_middle

/-- The device sees all buffers of a new pool. -/
def Visible (pool : Pool) : Prop := ∀ va ∈ pool.free.slots.toList, ∃ bus, pool.toBus? va = some bus

namespace Kept

variable {pool : Pool} {c : Custody κ}

/-- As long as a buffer is free, one can be taken that nobody holds. -/
theorem allocate_of_free (h : Kept pool c) (hvisible : Visible pool)
    (hfree : c.held.length < pool.free.capacity) :
    ∃ buffer rest, Pool.allocate.run c.pool = ⟨[], { c.pool with free := rest }, .ok buffer⟩ ∧
      buffer.size = pool.geometry.bufferSize ∧
      rest = { c.pool.free with head := c.pool.free.head + 1 } ∧
      c.pool.free.toList = buffer.virt :: rest.toList := by
  have hlt : c.pool.free.head < c.pool.free.slots.size := by
    have hhead := h.head_eq
    have hcap := h.capacity
    simp only [FreeStack.capacity] at hcap hfree
    omega
  have hpop : c.pool.free.pop = .ok (c.pool.free.slots[c.pool.free.head],
      { c.pool.free with head := c.pool.free.head + 1 }) := by
    rw [FreeStack.pop, dif_pos hlt]
  have hlist := FreeStack.toList_pop hpop
  have hmem : c.pool.free.slots[c.pool.free.head] ∈ pool.free.slots.toList :=
    h.perm.mem_iff.mp (List.mem_append_left _ (hlist ▸ List.mem_cons_self))
  -- the top of the stack is one of the addresses of the new pool, and the device sees all of these
  obtain ⟨bus, hbus⟩ := hvisible _ hmem
  rw [← h.toBus?_eq] at hbus
  refine ⟨⟨c.pool.free.slots[c.pool.free.head], bus, c.pool.geometry.bufferSize⟩, _, ?_, ?_, rfl,
    hlist⟩
  · show Pool.allocate c.pool = _
    simp only [Pool.allocate, hpop, hbus]
  · exact congrArg Geometry.bufferSize h.geometry_eq

/-- **One call**: an honest call loses nothing and hands nothing out twice. -/
theorem after (h : Kept pool c) (hvisible : Visible pool) (call : Call κ)
    (honest : c.Permits call) : Kept pool (c.after call) := by
  cases call with
  | allocate client =>
    rcases Nat.lt_or_ge c.held.length pool.free.capacity with hfree | hfull
    · obtain ⟨buffer, rest, hrun, -, hrest, hlist⟩ := h.allocate_of_free hvisible hfree
      have hafter : c.after (.allocate client)
          = ⟨{ c.pool with free := rest }, (client, buffer) :: c.held⟩ := by
        rw [Custody.after, hrun]
      rw [hafter]
      refine ⟨?_, ?_, ?_, ?_⟩
      · rw [h.frame]
      · rw [hrest]
        exact h.capacity
      · have hcap := h.capacity
        have hhead := h.head_eq
        show rest.head ≤ rest.capacity
        rw [hrest]
        show c.pool.free.head + 1 ≤ c.pool.free.capacity
        omega
      · -- the top of the stack has become the first of the held addresses
        have hperm := h.perm
        rw [hlist] at hperm
        exact List.perm_middle.trans hperm
    · have hrun := h.allocate_of_full (Nat.le_antisymm h.held_le hfull)
      have hafter : c.after (.allocate client) = c := by
        rw [Custody.after, hrun]
      rwa [hafter]
  | giveBack client va =>
    have hva : va ∈ c.addresses := honest
    obtain ⟨hrun, hlist⟩ := h.giveBack_of_mem hva
    have hafter : c.after (.giveBack client va)
        = ⟨{ c.pool with free := c.pool.free.put va }, c.held.eraseP (·.2.virt = va)⟩ := by
      rw [Custody.after, hrun]
    rw [hafter]
    refine ⟨?_, ?_, ?_, ?_⟩
    · rw [h.frame]
    · rw [← h.capacity]
      exact Array.size_setIfInBounds
    · show c.pool.free.head - 1 ≤ (c.pool.free.slots.setIfInBounds _ va).size
      rw [Array.size_setIfInBounds]
      exact (Nat.sub_le _ 1).trans h.head_le
    · rw [hlist]
      have hperm := perm_eraseP hva
      exact (List.perm_middle.symm.trans (hperm.symm.append_left _)).trans h.perm

/-- What a whole run of honest calls keeps. -/
theorem afterAll (h : Kept pool c) (hvisible : Visible pool) (calls : List (Call κ))
    (honest : c.Honest calls) : Kept pool (c.afterAll calls) := by
  -- on the calls, with the custody that the calls before have left
  induction calls generalizing c with
  | nil => exact h
  | cons call rest ih => exact ih (h.after hvisible call honest.1) honest.2

end Kept

/-! ### Pools that were made -/

/-- Addresses at a distance that is not zero differ. -/
theorem nodup_spaced {stride : Nat} (hpos : 0 < stride) (start count : Nat) :
    ((List.range count).map fun i => start + i * stride).Nodup := by
  refine List.Nodup.map (fun i j hij => ?_) List.nodup_range
  exact Nat.eq_of_mul_eq_mul_right hpos (Nat.add_left_cancel hij)

section

variable {σ : Type} {p : Platform σ} {mapper : Option MapperId} {config : Config} {s : σ}
  {pool : Pool}

/-- A new pool has its buffers on the stack, the first one on top. -/
theorem slots_of_create (h : ((Pool.create p mapper config).run s).outcome = .ok pool) :
    pool.free.slots.toList.map Address.toNat = (List.range config.bufferCount.toNat).map fun i =>
      pool.baseVirtual.toNat + i * pool.geometry.bufferSize.toNat := by
  obtain ⟨hintact, hgeometry, -, -, -, hslots⟩ := Pool.create_eq_ok h
  have hcount : pool.geometry.bufferCount = config.bufferCount :=
    (Geometry.compute_eq_ok (Config.compute_of_geometry hgeometry)).1
  rw [hslots, hcount]
  refine List.map_congr_left fun i _ => ?_
  rw [Geometry.bufferStart, ← hintact.base]

theorem capacity_of_create (h : ((Pool.create p mapper config).run s).outcome = .ok pool) :
    pool.free.capacity = config.bufferCount.toNat := by
  have hlen := congrArg List.length (slots_of_create h)
  rwa [List.length_map, List.length_map, List.length_range, Array.length_toList] at hlen

theorem visible_of_create (h : ((Pool.create p mapper config).run s).outcome = .ok pool) :
    Visible pool := by
  obtain ⟨hintact, -, -, -, -, hslots⟩ := Pool.create_eq_ok h
  intro va hva
  have hmem := List.mem_map_of_mem (f := Address.toNat) hva
  rw [hslots] at hmem
  obtain ⟨i, hi, hstart⟩ := List.mem_map.mp hmem
  exact hintact.exists_toBus? (List.mem_range.mp hi) hstart.symm

/-- A buffer can be taken from a new pool. -/
theorem allocate_of_create (h : ((Pool.create p mapper config).run s).outcome = .ok pool) :
    ∃ buffer rest, Pool.allocate.run pool = ⟨[], { pool with free := rest }, .ok buffer⟩ := by
  obtain ⟨hintact, hgeometry, -, -, hhead, -⟩ := Pool.create_eq_ok h
  have hcount : pool.geometry.bufferCount = config.bufferCount :=
    (Geometry.compute_eq_ok (Config.compute_of_geometry hgeometry)).1
  have hpos := hintact.sound.count_pos
  have hkept : Kept pool (⟨pool, []⟩ : Custody Unit) := Kept.new hhead
  obtain ⟨buffer, rest, hrun, -⟩ := hkept.allocate_of_free (visible_of_create h) (by
    rw [capacity_of_create h, ← hcount]
    exact hpos)
  exact ⟨buffer, rest, hrun⟩

end

/-- **Conservation**: whatever clients do with a pool that was made, each address of a buffer is
either on the free stack or held by one client.  A buffer can be taken until all are held, and one
that is held can always be given back. -/
theorem buffers_conserved {σ : Type} {context : Context σ} {config : Config} {s : σ} {pool : Pool}
    (hcreate : ((context.createPool config).run s).outcome = .ok pool) (calls : List (Call κ))
    (honest : (⟨pool, []⟩ : Custody κ).Honest calls) :
    let c := (⟨pool, []⟩ : Custody κ).afterAll calls
    let n := config.bufferCount.toNat
    let initial := (List.range n).map fun i =>
      pool.baseVirtual.toNat + i * pool.geometry.bufferSize.toNat
    initial.Nodup ∧ ((c.pool.free.toList ++ c.addresses).map Address.toNat).Perm initial ∧
    c.held.length ≤ n ∧ c.pool.available = n - c.held.length ∧
    ((Pool.allocate.run c.pool).outcome = .error .exhausted ↔ c.held.length = n) ∧
    (c.held.length < n → ∃ buffer, (Pool.allocate.run c.pool).outcome = .ok buffer ∧
      buffer.virt ∉ c.addresses ∧ buffer.size = pool.geometry.bufferSize) ∧
    ∀ va ∈ c.addresses, ((Pool.giveBack va).run c.pool).outcome = .ok () := by
  intro c n initial
  obtain ⟨hintact, -, -, -, hhead, -⟩ := Pool.create_eq_ok hcreate
  have hinitial : pool.free.slots.toList.map Address.toNat = initial := slots_of_create hcreate
  have hcapacity : pool.free.capacity = n := capacity_of_create hcreate
  have hvisible : Visible pool := visible_of_create hcreate
  have hkept : Kept pool c := (Kept.new hhead).afterAll hvisible calls honest
  have hperm : ((c.pool.free.toList ++ c.addresses).map Address.toNat).Perm initial :=
    hinitial ▸ hkept.perm.map _
  have hnodup : initial.Nodup := nodup_spaced hintact.sound.stride_pos _ _
  have htake : c.held.length < n → ∃ buffer, (Pool.allocate.run c.pool).outcome = .ok buffer ∧
      buffer.virt ∉ c.addresses ∧ buffer.size = pool.geometry.bufferSize := by
    intro hfree
    obtain ⟨buffer, rest, hrun, hsize, -, hlist⟩ :=
      hkept.allocate_of_free hvisible (hcapacity ▸ hfree)
    refine ⟨buffer, congrArg Trace.outcome hrun, ?_, hsize⟩
    -- the top of the stack is one of the free addresses, and those differ from the held ones
    have happend := List.Nodup.of_map _ (hperm.nodup_iff.mpr hnodup)
    rw [hlist] at happend
    exact fun hheld => (List.nodup_cons.mp happend).1 (List.mem_append_right _ hheld)
  refine ⟨hnodup, hperm, hcapacity ▸ hkept.held_le, hcapacity ▸ hkept.available_eq, ?_, htake,
    fun va hva => congrArg Trace.outcome (hkept.giveBack_of_mem hva).1⟩
  constructor
  · intro hexhausted
    by_contra hne
    obtain ⟨buffer, hbuffer, -⟩ := htake (by have := hkept.held_le; omega)
    rw [hbuffer] at hexhausted
    cases hexhausted
  · intro hfull
    exact congrArg Trace.outcome (hkept.allocate_of_full (hcapacity.symm ▸ hfull))

/-- Two clients share a pool of two buffers.  The first one takes both and misses a third, the
second gives one of them back and takes it again. -/
theorem buffers_conserved_two_clients :
    let calls : List (Call Nat) :=
      [.allocate 1, .allocate 1, .allocate 1, .giveBack 2 ⟨4294971392⟩, .allocate 2]
    ∃ pool,
      ((Context.createPool ⟨Script.platform {}, none⟩ ⟨"rx", {}, 64, 2, 64⟩).run
        (Script.start {})).outcome = .ok pool ∧
      (⟨pool, []⟩ : Custody Nat).Honest calls ∧
      ((((⟨pool, []⟩ : Custody Nat).afterAll calls).pool.free.toList ++
        ((⟨pool, []⟩ : Custody Nat).afterAll calls).addresses).map Address.toNat).Perm
          [4294971392, 4294971456] := by
  intro calls
  -- the second client gives back what the first one took first
  have hheld : (⟨4294971392⟩ : VirtAddr) ∈ [(⟨4294971456⟩ : VirtAddr), ⟨4294971392⟩] := by decide
  obtain ⟨pool, hcreate, honest, hbase, hsize⟩ : ∃ pool,
      ((Context.createPool ⟨Script.platform {}, none⟩ ⟨"rx", {}, 64, 2, 64⟩).run
        (Script.start {})).outcome = .ok pool ∧
      (⟨pool, []⟩ : Custody Nat).Honest calls ∧
      pool.baseVirtual.toNat = 4294971392 ∧ pool.geometry.bufferSize.toNat = 64 :=
    ⟨_, rfl, And.intro trivial (And.intro trivial (And.intro trivial (And.intro hheld
      (And.intro trivial trivial)))), rfl, rfl⟩
  have hperm := (buffers_conserved hcreate calls honest).2.1
  rw [hbase, hsize] at hperm
  exact ⟨pool, hcreate, honest, hperm⟩

end Custody

end HugePool
