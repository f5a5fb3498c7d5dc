import HugePool.Proofs.Geometry.Plan
import HugePool.Proofs.Pool.Accounts
import HugePool.Proofs.Pool.Contiguity
import HugePool.Proofs.Pool.Lengths

/-!
# Pools of one buffer

A pool of one buffer is made and its buffer is taken in one operation.  Nothing can go wrong between
the two steps, because a new pool has a buffer and the device sees it.  Returning the buffer
destroys the pool.

* `Config.geometry_single` gives the layout in numbers.  A buffer that does not leave room for the
  small header in one huge page gets a huge page of its own, and the header gets the one before it.
* `Pool.GaveSingle` is what the pool is like when its buffer is out (`Pool.gaveSingle_of_create`).
* `Pool.giveBackSingle_says`: returning the buffer tells the surroundings what the pool gives
  back, and nothing else.
* `Context.single_exact` is the main statement.
-/

namespace HugePool

variable {σ : Type}

/-! ### Layout -/

/-- The size of a buffer, rounded up to the default alignment. -/
def roundedSize (size : UInt64) : Nat := (size.toNat + 63) / 64 * 64

theorem isLeast_roundedSize (size : UInt64) :
    IsLeast (Word.multiplesFrom 64 size.toNat) (roundedSize size) := by
  unfold roundedSize
  constructor
  · exact ⟨Nat.dvd_mul_left _ _, by omega⟩
  · rintro m ⟨⟨k, rfl⟩, hle⟩
    omega

/-- Sizes that do not fit next to the small header are rounded up to the huge page. -/
theorem isLeast_powersFrom_hugePage {n : Nat} (hlt : 2093056 < n) (hle : n ≤ 2097152) :
    IsLeast (Word.powersFrom n) 2097152 := by
  refine ⟨⟨⟨21, rfl⟩, hle⟩, ?_⟩
  rintro m ⟨⟨k, rfl⟩, hm⟩
  have hk : 20 < k := by
    by_contra hsmall
    have hpow : 2 ^ k ≤ 2 ^ 20 := Nat.pow_le_pow_right Nat.two_pos (Nat.not_lt.mp hsmall)
    omega
  exact Nat.pow_le_pow_right Nat.two_pos hk

/-- One buffer at the default alignment lies behind the small header, or is the second of two huge
pages. -/
theorem Config.geometry_single {config : Config} (hcount : config.bufferCount = 1)
    (halign : config.alignment = 64) {g : Geometry} (h : config.geometry = .ok g) :
    if roundedSize config.bufferSize ≤ 2093056 then
      g.Reads config (roundedSize config.bufferSize) 4096 1
    else g.Reads config 2097152 2097152 2 := by
  have hcompute := Config.compute_of_geometry h
  have hcount_nat : config.bufferCount.toNat = 1 := congrArg UInt64.toNat hcount
  have hs : IsLeast (Word.multiplesFrom config.alignment.toNat config.bufferSize.toNat)
      (roundedSize config.bufferSize) := by
    rw [halign]
    exact isLeast_roundedSize config.bufferSize
  split_ifs with hfits
  · exact Geometry.reads_of_plan hcompute (.close hs (by rw [hcount_nat]; omega))
  · have hle := hs.2 (Geometry.compute_eq_ok_iff.mp hcompute).1.page_mem
    have hp := isLeast_powersFrom_hugePage (Nat.lt_of_not_le hfits) hle
    -- the header and the buffer are a huge page each
    have htotal : IsLeast (Word.multiplesFrom 2097152
        (2097152 * config.bufferCount.toNat + max 2097152 4096)) 4194304 := by
      rw [hcount_nat]
      exact ⟨⟨⟨2, rfl⟩, le_rfl⟩, fun m hm => hm.2⟩
    exact Geometry.reads_of_plan hcompute (.spread hs (by rw [hcount_nat]; omega) hp htotal)

/-! ### The pool when its buffer is out -/

namespace Pool

/-- The pool has handed out its only buffer, of at least `size` bytes. -/
structure GaveSingle (pool : Pool) (size : UInt64) (buffer : Buffer) : Prop where
  start : buffer.virt = pool.baseVirtual
  seen : pool.toBus? pool.baseVirtual = some buffer.bus
  /-- The buffer lies behind the small header. -/
  small : roundedSize size ≤ 2097152 - 4096 → buffer.size.toNat = roundedSize size ∧
    pool.geometry.headerOffset = 4096 ∧ pool.hugePages.length = 1
  /-- The buffer is a huge page, and so is the header in front of it. -/
  large : 2097152 - 4096 < roundedSize size → buffer.size = hugePageSize ∧
    pool.geometry.headerOffset = hugePageSize ∧
    ∃ first second, pool.hugePages = [first, second] ∧ second.virt = buffer.virt
  available : pool.available = 0
  exhausted : allocate.run pool = ⟨[], pool, .error .exhausted⟩

/-- In an intact pool of two huge pages, buffers behind the first one start where the second one
does. -/
theorem Intact.exists_pair {pool : Pool} (h : pool.Intact)
    (hpages : pool.geometry.hugePages.toNat = 2)
    (hheader : pool.geometry.headerOffset.toNat = hugePageSize.toNat) :
    ∃ first second, pool.hugePages = [first, second] ∧ second.virt = pool.baseVirtual := by
  obtain ⟨first, second, hpair⟩ : ∃ first second, pool.hugePages = [first, second] :=
    List.length_eq_two.mp (h.length_hugePages.trans hpages)
  have hstarts := h.pages
  rw [hpair, hpages] at hstarts
  have hsecond : second.virt.toNat = pool.region.mapping.toNat + 1 * hugePageSize.toNat :=
    (List.cons.inj (List.cons.inj hstarts).2).1
  refine ⟨first, second, hpair, Address.toNat_inj.mp ?_⟩
  rw [hsecond, h.base, hheader, Nat.one_mul]

variable {p : Platform σ} {mapper : Option MapperId} {config : Config} {s : σ} {pool : Pool}

/-- A new pool of one buffer gives it away. -/
theorem gaveSingle_of_create (h : ((create p mapper config).run s).outcome = .ok pool)
    (hcount : config.bufferCount = 1) (halign : config.alignment = 64) :
    ∃ buffer free, allocate.run pool = ⟨[], { pool with free := free }, .ok buffer⟩ ∧
      ({ pool with free := free } : Pool).GaveSingle config.bufferSize buffer ∧
      free.capacity = 1 ∧ free.head = 1 := by
  obtain ⟨hintact, hgeometry, -, -, hhead, -⟩ := create_eq_ok h
  have hcapacity : pool.free.capacity = 1 := by
    rw [Custody.capacity_of_create h, hcount]
    rfl
  have hkept : Custody.Kept pool (⟨pool, []⟩ : Custody Unit) := Custody.Kept.new hhead
  obtain ⟨buffer, free, hrun, hsize, hfree, hlist⟩ :=
    hkept.allocate_of_free (Custody.visible_of_create h) (hcapacity ▸ Nat.zero_lt_one)
  obtain ⟨-, hbus, -⟩ := allocate_eq_ok (congrArg Trace.outcome hrun)
  have hfree_head : free.head = 1 := by
    rw [hfree]
    exact congrArg Nat.succ hhead
  have hfree_capacity : free.capacity = 1 := by
    rw [hfree]
    exact hcapacity
  -- the top of the stack is the address of buffer number 0
  have hstart : buffer.virt = pool.baseVirtual := by
    have hslots := Custody.slots_of_create h
    have htop : pool.free.toList = pool.free.slots.toList := by
      rw [FreeStack.toList, hhead, List.drop_zero]
    rw [← htop, hlist, hcount] at hslots
    have hfirst : buffer.virt.toNat = pool.baseVirtual.toNat + 0 * _ :=
      (List.cons.inj hslots).1
    exact Address.toNat_inj.mp (hfirst.trans (by rw [Nat.zero_mul, Nat.add_zero]))
  have hempty : free.toList = [] := by
    apply List.eq_nil_of_length_eq_zero
    rw [FreeStack.length_toList, FreeStack.available, hfree_capacity, hfree_head]
  have hlayout := Config.geometry_single hcount halign hgeometry
  refine ⟨buffer, free, hrun, ⟨hstart, hstart ▸ hbus, ?_, ?_, ?_, ?_⟩, hfree_capacity, hfree_head⟩
  · intro hsmall
    rw [if_pos hsmall] at hlayout
    refine ⟨(congrArg UInt64.toNat hsize).trans hlayout.bufferSize,
      UInt64.toNat_inj.mp hlayout.headerOffset, ?_⟩
    exact hintact.length_hugePages.trans hlayout.hugePages
  · intro hlarge
    rw [if_neg (Nat.not_le.mpr hlarge)] at hlayout
    refine ⟨UInt64.toNat_inj.mp ((congrArg UInt64.toNat hsize).trans hlayout.bufferSize),
      UInt64.toNat_inj.mp hlayout.headerOffset, ?_⟩
    rw [hstart]
    exact hintact.exists_pair hlayout.hugePages hlayout.headerOffset
  · show free.available = 0
    rw [FreeStack.available, hfree_capacity, hfree_head]
  · show allocate { pool with free := free } = _
    rw [allocate, FreeStack.pop_of_toList_eq_nil hempty]

/-- A pool that was made holds what was taken for it. -/
theorem squares_of_create (h : ((create p mapper config).run s).outcome = .ok pool)
    (hkept : ∀ e ∈ ((create p mapper config).run s).events, e.Kept) :
    Squares ((create p mapper config).run s).events [] [pool] := by
  obtain ⟨story, hshows, hmeets⟩ := create_tells p mapper config s hkept
  rw [h] at hmeets
  have hattempt : Attempt mapper config story (.ok pool) := hmeets
  rw [← squares_callsOf, hshows.calls_eq]
  exact hattempt.squares_of_made.2

/-! ### Returning the buffer -/

/-- A pool whose only buffer is out takes it back, and says how it is destroyed. -/
theorem giveBackSingle_says (p : Platform σ) {pool : Pool} (hcapacity : pool.free.capacity = 1)
    (hhead : pool.free.head = 1) (buffer : Buffer) :
    (pool.giveBackSingle p buffer).Says p pool.closing := by
  intro s hkept
  have hrefusal : pool.free.refusal? = none :=
    FreeStack.refusal?_eq_none_iff.mpr ⟨by omega, by omega⟩
  have hrun : (giveBack buffer.virt).run pool
      = ⟨[], { pool with free := pool.free.put buffer.virt }, .ofExcept (.ok ())⟩ := by
    show giveBack buffer.virt pool = _
    rw [giveBack, hrefusal]
    rfl
  rw [run_giveBackSingle p hrun] at hkept ⊢
  have hanswer : (⟨[], s, .ofExcept (.ok ())⟩ : Trace σ StackError Unit).Shows p s [] := ⟨rfl, rfl⟩
  obtain ⟨hshows, hout⟩ :=
    (release_tells p { pool with free := pool.free.put buffer.virt }).cleanUp hanswer
      (by rintro ⟨⟩) hkept
  refine ⟨_, hshows, ?_⟩
  rw [hout]
  exact rfl

end Pool

/-- **Single buffers**: to ask for a pool of one buffer is to make the pool, with the same events
and the same failures.  If the pool is made, its buffer is handed out, behind the small header or as
a huge page of its own, and no other can be taken.  As long as it is out, returning it succeeds if
the pages can be unmapped; each page is then unmapped once and the huge pages are given back once,
so that all that was taken is returned. -/
theorem Context.single_exact {κ : Type} (c : Context σ) (name : String) (device : Device)
    (size : UInt64) (s : σ) :
    let t := (c.createPool ⟨name, device, size, 1, 64⟩).run s
    let u := (c.singleBuffer name device size).run s
    u.events = t.events ∧ u.state = t.state ∧
    match t.outcome with
    | .error cause => u.outcome = .error cause
    | .panic cause => u.outcome = .panic cause
    | .abort => u.outcome = .abort
    | .ok pool => ∃ buffer left, u.outcome = .ok (buffer, left) ∧
      left = { pool with free := left.free } ∧ left.GaveSingle size buffer ∧
      ∀ d, left.InUse κ d → d.free = left.free → ∀ s',
        let v := (d.giveBackSingle c.platform buffer).run s'
        (∀ e ∈ v.events, e.Kept) →
          v.outcome = .ok () ∧
          callsOf v.events = (match c.mapper with
            | some mapper =>
              left.hugePages.map fun r => .unmapBus mapper device r.bus hugePageSize (.ok ())
            | none => []) ++ [.unmapPages left.lease.start left.lease.len] ∧
          ((∀ e ∈ t.events, e.Kept) →
            ((t.events ++ v.events).filterMap Event.taken?).Perm
              ((t.events ++ v.events).filterMap Event.returned?)) := by
  intro t u
  have hsingle : c.singleBuffer name device size = c.createPool ⟨name, device, size, 1, 64⟩ >>=
    fun pool => Action.within pool (Pool.allocate.mapError .firstAllocation)
      (Pool.release c.platform) := rfl
  cases hout : t.outcome with
  | error cause =>
    have hu : u = ⟨t.events, t.state, .error cause⟩ := by
      show Action.run _ s = _
      rw [hsingle, Action.run_bind, hout]
    rw [hu]
    exact ⟨rfl, rfl, rfl⟩
  | panic cause =>
    have hu : u = ⟨t.events, t.state, .panic cause⟩ := by
      show Action.run _ s = _
      rw [hsingle, Action.run_bind, hout]
    rw [hu]
    exact ⟨rfl, rfl, rfl⟩
  | abort =>
    have hu : u = ⟨t.events, t.state, .abort⟩ := by
      show Action.run _ s = _
      rw [hsingle, Action.run_bind, hout]
    rw [hu]
    exact ⟨rfl, rfl, rfl⟩
  | ok pool =>
    obtain ⟨buffer, free, hallocate, hgave, hcapacity, hhead⟩ :=
      Pool.gaveSingle_of_create hout rfl rfl
    have hu : u = ⟨t.events, t.state, .ok (buffer, { pool with free := free })⟩ :=
      Owner.run_singleBuffer_of_allocate rfl hout hallocate
    rw [hu]
    refine ⟨rfl, rfl, buffer, { pool with free := free }, rfl, rfl, hgave, ?_⟩
    intro d hd hfree s' v hkept
    obtain ⟨hintact, -, hmapper, hdevice, -⟩ := Pool.create_eq_ok hout
    -- what clients did with the pool does not change what it gives back
    have hsame := hd.same (hintact.with_free free).sound
    have hclosing : d.closing = pool.closing := by
      unfold Pool.closing
      rw [hsame.table_eq, hsame.mapping_eq, hsame.mappedLen_eq]
    obtain ⟨story, hshows, hmeets⟩ := Pool.giveBackSingle_says c.platform
      (hfree ▸ hcapacity) (hfree ▸ hhead) buffer s' hkept
    rcases hmeets.cases with ⟨_, hanswer, rfl⟩ | ⟨_, _, hfalse⟩
    · have hcalls : callsOf v.events = shown pool.closing := hclosing ▸ hshows.calls_eq
      refine ⟨hanswer, ?_, fun hmade => ?_⟩
      · rw [hcalls, Pool.shown_closing, hmapper, hdevice]
        rfl
      · have htaken : Squares t.events [] [pool] := Pool.squares_of_create hout hmade
        have hreturned : Squares v.events [pool] [] := by
          rw [← squares_callsOf, hcalls]
          exact pool.squares_closing
        have hsquares := htaken.append hreturned
        rwa [Squares, List.flatMap_nil, List.append_nil, List.append_nil] at hsquares
    · exact hfalse.elim

/-- One byte more than fits next to the small header.  The buffer is the second of two pages that
the mapper shows 4096 bytes further on, and all is returned. -/
theorem Context.single_exact_second_page :
    ∃ buffer left, ((Context.singleBuffer ⟨Script.platform { mappers := [{ distance := 4096 }] },
        some 0⟩ "tx" {} 2093057).run (Script.start { mappers := [{ distance := 4096 }] })).outcome
          = .ok (buffer, left) ∧
      buffer = ⟨⟨4297064448⟩, ⟨4297068544⟩, 2097152⟩ ∧ left.GaveSingle 2093057 buffer ∧
      let v := (left.giveBackSingle (Script.platform { mappers := [{ distance := 4096 }] })
        buffer).run (Script.start { mappers := [{ distance := 4096 }] })
      v.outcome = .ok () ∧
        (callsOf v.events).map Event.line = ["bus.unmap 0.0 4294971392 2097152 -> Ok",
          "bus.unmap 0.0 4297068544 2097152 -> Ok", "backend.unmap 4294967296 4194304"] := by
  obtain ⟨pool, hcreate⟩ : ∃ pool, ((Context.createPool
      ⟨Script.platform { mappers := [{ distance := 4096 }] }, some 0⟩
      ⟨"tx", {}, 2093057, 1, 64⟩).run
        (Script.start { mappers := [{ distance := 4096 }] })).outcome = .ok pool := ⟨_, rfl⟩
  obtain ⟨-, -, hexact⟩ := single_exact (κ := Nat)
    ⟨Script.platform { mappers := [{ distance := 4096 }] }, some 0⟩ "tx" {} 2093057
    (Script.start { mappers := [{ distance := 4096 }] })
  rw [hcreate] at hexact
  obtain ⟨buffer, left, hout, -, hgave, hreturned⟩ := hexact
  obtain ⟨buffer', left', hout', hbuffer, hkept, hcalls⟩ : ∃ buffer left,
      ((Context.singleBuffer ⟨Script.platform { mappers := [{ distance := 4096 }] },
        some 0⟩ "tx" {} 2093057).run (Script.start { mappers := [{ distance := 4096 }] })).outcome
          = .ok (buffer, left) ∧
      buffer = ⟨⟨4297064448⟩, ⟨4297068544⟩, 2097152⟩ ∧
      (∀ e ∈ ((left.giveBackSingle (Script.platform { mappers := [{ distance := 4096 }] })
        buffer).run (Script.start { mappers := [{ distance := 4096 }] })).events, e.Kept) ∧
      (callsOf ((left.giveBackSingle (Script.platform { mappers := [{ distance := 4096 }] })
        buffer).run (Script.start { mappers := [{ distance := 4096 }] })).events).map Event.line
          = ["bus.unmap 0.0 4294971392 2097152 -> Ok", "bus.unmap 0.0 4297068544 2097152 -> Ok",
            "backend.unmap 4294967296 4194304"] := by
    refine ⟨_, _, rfl, rfl, ?_, ?_⟩ <;> decide +kernel
  cases hout.symm.trans hout'
  exact ⟨buffer, left, hout, hbuffer, hgave, (hreturned left .new rfl _ hkept).1, hcalls⟩

end HugePool
