import HugePool.Proofs.Pool.Attempt
import HugePool.Proofs.Pool.Ownership

/-!
# What is held after a whole run

Pools take huge pages from their source and places on a device's bus from mappers.  A journal tells
what was taken and what was returned (`Event.taken?`, `Event.returned?`), and this accounts for what
pools hold: events `Squares` with the pools before and after them if what was taken, together with
what was held before, is what was returned, together with what is held after.

A `Course` is what the owner of a context has done so far.  It remembers which mapper was installed
when each of the pools that are left was made.

* `Attempt.squares`: an attempt to make a pool takes what the new pool holds, or returns what it
  took.
* `Pool.release_tells`: destroying a pool returns what it holds, its pages in the order of their
  addresses.
* `Course.Sound.after`: one errand keeps the accounts squared, whether or not it fails or panics.
* `Course.assets_accounted`: hence so does any sequence of errands.
-/

namespace HugePool

variable {σ ε α β : Type}

/-! ### Assets -/

/-- What pools take from their surroundings. -/
inductive Asset where
  | pages (start : VirtAddr) (len : UInt64)
  /-- Memory that a mapper has made visible to a device. -/
  | place (mapper : MapperId) (device : Device) (bus : BusAddr) (len : UInt64)
  deriving DecidableEq

namespace Event

def taken? : Event → Option Asset
  | .mapPages len (.ok start) => some (.pages start len)
  | .mapBus mapper device _ len (.ok bus) => some (.place mapper device bus len)
  | _ => none

def returned? : Event → Option Asset
  | .unmapPages start len => some (.pages start len)
  | .unmapBus mapper device bus len (.ok _) => some (.place mapper device bus len)
  | _ => none

variable {len : UInt64} {start : VirtAddr} {rest : List Event}

theorem filterMap_taken?_mapPages : (mapPages len (.ok start) :: rest).filterMap taken?
    = .pages start len :: rest.filterMap taken? := rfl

theorem filterMap_returned?_mapPages : (mapPages len (.ok start) :: rest).filterMap returned?
    = rest.filterMap returned? := rfl

end Event

/-- The places that a table has taken from its mapper. -/
def PageTable.places (t : PageTable) : List Asset :=
  match t.mapper with
  | some mapper => t.records.map fun r => .place mapper t.device r.bus hugePageSize
  | none => []

def Pool.assets (pool : Pool) : List Asset :=
  .pages pool.region.mapping pool.region.mappedLen :: pool.table.places

/-- What a pool holds if a given mapper, or none, was installed when it was made. -/
def Pool.assetsThrough (pool : Pool) (mapper : Option MapperId) : List Asset :=
  .pages pool.lease.start pool.lease.len ::
    match mapper with
    | some mapper => pool.hugePages.map fun r => .place mapper pool.device r.bus hugePageSize
    | none => []

/-- What the events take and return is the difference between what pools hold before and after. -/
def Squares (events : List Event) (before after : List Pool) : Prop :=
  (events.filterMap Event.taken? ++ before.flatMap Pool.assets).Perm
    (events.filterMap Event.returned? ++ after.flatMap Pool.assets)

/-- Records neither take nor return anything. -/
theorem filterMap_callsOf {f : Event → Option β} (hf : ∀ record, f (.log record) = none)
    (events : List Event) : (callsOf events).filterMap f = events.filterMap f := by
  induction events with
  | nil => rfl
  | cons event rest ih =>
    cases event with
    | log record =>
      rw [List.filterMap_cons_none (hf record), ← ih]
      rfl
    | _ =>
      show List.filterMap f (_ :: callsOf rest) = _
      rw [List.filterMap_cons, List.filterMap_cons, ih]

theorem squares_callsOf {events : List Event} {before after : List Pool} :
    Squares (callsOf events) before after ↔ Squares events before after := by
  unfold Squares
  rw [filterMap_callsOf fun _ => rfl, filterMap_callsOf fun _ => rfl]

namespace Squares

variable {events first second : List Event} {before middle after : List Pool}

theorem of_silent (h : callsOf events = [])
    (hsame : before.map Pool.assets = after.map Pool.assets) :
    Squares events before after := by
  rw [← squares_callsOf, h, Squares, List.flatMap_def, List.flatMap_def, hsame]
  exact List.Perm.refl _

theorem append (h : Squares first before middle) (h' : Squares second middle after) :
    Squares (first ++ second) before after := by
  unfold Squares at *
  rw [List.filterMap_append, List.filterMap_append, List.append_assoc, List.append_assoc]
  -- what is held in between is what the second part starts with
  calc
    List.Perm _ (second.filterMap Event.taken? ++
        (first.filterMap Event.taken? ++ before.flatMap Pool.assets)) :=
      List.perm_append_comm_assoc ..
    List.Perm _ (second.filterMap Event.taken? ++
        (first.filterMap Event.returned? ++ middle.flatMap Pool.assets)) := h.append_left _
    List.Perm _ (first.filterMap Event.returned? ++
        (second.filterMap Event.taken? ++ middle.flatMap Pool.assets)) :=
      List.perm_append_comm_assoc ..
    List.Perm _ _ := h'.append_left _

theorem frame (h : Squares events before after) (others : List Pool) :
    Squares events (before ++ others) (after ++ others) := by
  unfold Squares at *
  rw [List.flatMap_append, List.flatMap_append, ← List.append_assoc, ← List.append_assoc]
  exact h.append_right _

theorem perm_left (h : Squares events before after) {before' : List Pool}
    (hperm : before'.Perm before) : Squares events before' after :=
  ((hperm.flatMap_right _).append_left _).trans h

end Squares

/-! ### Conversations -/

theorem shown_call (event : Event) (rest : List Exchange) :
    shown (.call event :: rest) = event :: shown rest := rfl

theorem PageTable.filterMap_unmapping (t : PageTable) :
    (shown t.unmapping).filterMap Event.taken? = [] ∧
      (shown t.unmapping).filterMap Event.returned? = t.places := by
  unfold unmapping places
  cases t.mapper with
  | none => exact ⟨rfl, rfl⟩
  | some mapper =>
    generalize t.records = records
    induction records with
    | nil => exact ⟨rfl, rfl⟩
    | cons record rest ih => exact ⟨ih.1, congrArg (List.cons _) ih.2⟩

theorem Site.filterMap_showings (site : Site) (entries : List Entry) :
    (shown (site.showings entries)).filterMap Event.taken? = (site.table entries).places ∧
      (shown (site.showings entries)).filterMap Event.returned? = [] := by
  unfold showings showing table PageTable.places
  cases site.mapper with
  | none =>
    induction entries with
    | nil => exact ⟨rfl, rfl⟩
    | cons e rest ih => exact ih
  | some mapper =>
    induction entries with
    | nil => exact ⟨rfl, rfl⟩
    | cons e rest ih => exact ⟨congrArg (List.cons _) ih.1, ih.2⟩

namespace Attempt

variable {mapper : Option MapperId} {config : Config} {site : Site} {g : Geometry}
  {story : List Exchange} {entries : List Entry} {virt : VirtAddr}

/-- A page that fails was not taken, unless it was mapped to a place without room for it. -/
theorem PageFails.filterMap {fault : Fault CreateError} (h : PageFails site virt story fault)
    (hfaultless : Faultless (shown story)) :
    (shown story).filterMap Event.taken? = [] ∧ (shown story).filterMap Event.returned? = [] := by
  cases h with
  | untranslated cause => exact ⟨rfl, rfl⟩
  | refused m hmapper phys cause => exact ⟨rfl, rfl⟩
  | misplaced phys bus hsees hroom =>
    unfold Site.showing at *
    cases hmapper : site.mapper with
    | none => exact ⟨rfl, rfl⟩
    | some m =>
      rw [hmapper] at hfaultless
      have hmapped : Event.mapBus m site.device phys hugePageSize (.ok bus)
          ∈ shown [.call (.translate virt (.ok phys)),
            .call (.mapBus m site.device phys hugePageSize (.ok bus))] :=
        List.mem_cons_of_mem _ List.mem_cons_self
      exact absurd hroom (hfaultless _ hmapped)

theorem filterMap_entering (site : Site) (g : Geometry) (entries : List Entry)
    (last : List Exchange) (hlast : (shown last).filterMap Event.taken? = [] ∧
      (shown last).filterMap Event.returned? = []) :
    (shown (site.entering g entries ++ last)).filterMap Event.taken? = (site.table entries).places ∧
      (shown (site.entering g entries ++ last)).filterMap Event.returned? = [] := by
  have hshown : shown (site.entering g entries ++ last)
      = shown (site.showings entries) ++ shown last := shown_append (site.showings entries) last
  obtain ⟨htaken, hreturned⟩ := site.filterMap_showings entries
  rw [hshown, List.filterMap_append, List.filterMap_append, htaken, hreturned, hlast.1, hlast.2]
  exact ⟨List.append_nil _, rfl⟩

theorem Fails.filterMap {fault : Fault CreateError} (h : Fails site g story entries fault)
    (hfaultless : Faultless (shown story)) :
    (shown story).filterMap Event.taken? = (site.table entries).places ∧
      (shown story).filterMap Event.returned? = [] := by
  cases h with
  | noTable =>
    unfold PageTable.places Site.table
    cases site.mapper <;> exact ⟨rfl, rfl⟩
  | page _ virt last _ hentered hlt hvirt hpage =>
    rw [shown_append] at hfaultless
    exact filterMap_entering site g entries last
      (hpage.filterMap (faultless_append.mp hfaultless).2)
  | base _ start cause => exact filterMap_entering site g entries _ ⟨rfl, rfl⟩
  | noStack _ start phys => exact filterMap_entering site g entries _ ⟨rfl, rfl⟩

/-- An attempt that makes a pool takes what the pool holds. -/
theorem squares_of_made {pool : Pool} (h : Attempt mapper config story (.ok pool)) :
    pool.device = config.device ∧ Squares (shown story) [] [pool] := by
  generalize hout : Outcome.ok pool = outcome at h
  cases h with
  | failed g len mapping told entries fault => cases fault <;> cases hout
  | made g len mapping start entries phys made hgeometry hlen hentered hall hstart hmakes =>
    cases hout
    obtain ⟨htaken, hreturned⟩ := filterMap_entering ⟨mapper, config.device, mapping⟩ g entries
      [.call (.translate start (.ok phys)),
        .memory (g.bufferCount.toNat * FreeStack.slotBytes) true] ⟨rfl, rfl⟩
    refine ⟨hmakes.device_eq, ?_⟩
    rw [shown_call, Squares, Event.filterMap_taken?_mapPages, Event.filterMap_returned?_mapPages,
      htaken, hreturned, List.flatMap_singleton, Pool.assets, hmakes.mapping_eq,
      hmakes.mappedLen_eq, hmakes.table_eq, List.flatMap_nil, List.append_nil]
    exact List.Perm.refl _
  | _ => cases hout

/-- An attempt leaves what the new pool holds, or nothing. -/
theorem squares {outcome : Outcome CreateError Pool} (h : Attempt mapper config story outcome)
    (hfaultless : Faultless (shown story)) :
    outcome.Meets (fun pool => pool.device = config.device ∧ Squares (shown story) [] [pool])
      fun _ => Squares (shown story) [] [] := by
  cases h with
  | illegal cause => exact List.Perm.refl _
  | noPages g len cause => exact List.Perm.refl _
  | failed g len mapping told entries fault hgeometry hlen hfails =>
    apply Outcome.meets_fault.mpr
    rw [shown_call, shown_append, shown_append] at hfaultless ⊢
    have hrest := (List.forall_mem_cons.mp hfaultless).2
    obtain ⟨htaken, hreturned⟩ :=
      hfails.filterMap (faultless_append.mp (faultless_append.mp hrest).1).1
    obtain ⟨hnone, hplaces⟩ :=
      (Site.table ⟨mapper, config.device, mapping⟩ entries).filterMap_unmapping
    have hlast : (shown [.call (.unmapPages mapping len)]).filterMap Event.taken? = [] ∧
      (shown [.call (.unmapPages mapping len)]).filterMap Event.returned?
        = [Asset.pages mapping len] := ⟨rfl, rfl⟩
    unfold Squares
    rw [Event.filterMap_taken?_mapPages, Event.filterMap_returned?_mapPages]
    simp only [List.filterMap_append, htaken, hreturned, hnone, hplaces, hlast, List.append_nil,
      List.nil_append, List.flatMap_nil]
    -- the huge pages, which were taken first, are returned last
    exact (List.perm_append_singleton _ _).symm
  | made g len mapping start entries phys pool hgeometry hlen hentered hall hstart hmakes =>
    exact squares_of_made (.made g len mapping start entries phys pool hgeometry hlen hentered hall
      hstart hmakes)

end Attempt

/-! ### Destroying a pool -/

/-- How a pool is destroyed: its pages are unmapped one after the other, and the huge pages are
given back. -/
def Pool.closing (pool : Pool) : List Exchange :=
  pool.table.unmapping ++ [.call (.unmapPages pool.region.mapping pool.region.mappedLen)]

/-- The action destroys a pool and says nothing else, however it ends. -/
def Action.Ends (p : Platform σ) (a : Action σ ε α) (pool : Pool) : Prop :=
  a.Tells p (fun story _ => story = pool.closing) fun story _ => story = pool.closing

theorem Pool.shown_closing (pool : Pool) : shown pool.closing =
    (match pool.table.mapper with
      | some mapper => pool.hugePages.map fun r =>
        .unmapBus mapper pool.table.device r.bus hugePageSize (.ok ())
      | none => []) ++ [.unmapPages pool.region.mapping pool.region.mappedLen] := by
  unfold Pool.closing PageTable.unmapping
  rw [shown_append]
  cases pool.table.mapper with
  | none => rfl
  | some mapper =>
    simp only [shown, List.filterMap_map, Function.comp_def, List.filterMap_eq_map']
    rfl

theorem Pool.release_tells (p : Platform σ) (pool : Pool) : (pool.release p).Says p pool.closing :=
  (Action.Tells.note _).andThen ((pool.table.release_tells p).andThen (pool.region.release_tells p))

theorem Pool.release_ends (p : Platform σ) (pool : Pool) : (pool.release p).Ends p pool :=
  (pool.release_tells p).imp (fun _ _ => id) fun _ _ => False.elim

/-- A pool is destroyed whether or not its last buffer is taken back. -/
theorem Pool.giveBackSingle_ends (p : Platform σ) (pool : Pool) (buffer : Buffer) :
    (pool.giveBackSingle p buffer).Ends p pool := by
  intro s hkept
  obtain ⟨free, answer, hrun⟩ := pool.run_giveBack_frame buffer.virt
  rw [Pool.run_giveBackSingle p hrun] at hkept ⊢
  have hanswer : (⟨[], s, .ofExcept answer⟩ : Trace σ StackError Unit).Shows p s [] := ⟨rfl, rfl⟩
  obtain ⟨hshows, hout⟩ := (Pool.release_tells p { pool with free := free }).cleanUp hanswer
    (by cases answer <;> exact nofun) hkept
  refine ⟨_, hshows, ?_⟩
  rw [hout]
  cases answer <;> rfl

theorem Pool.squares_closing (pool : Pool) : Squares (shown pool.closing) [pool] [] := by
  obtain ⟨hnone, hplaces⟩ := pool.table.filterMap_unmapping
  have hlast : (shown [.call (.unmapPages pool.region.mapping pool.region.mappedLen)]).filterMap
      Event.taken? = [] ∧
      (shown [.call (.unmapPages pool.region.mapping pool.region.mappedLen)]).filterMap
        Event.returned? = [Asset.pages pool.region.mapping pool.region.mappedLen] := ⟨rfl, rfl⟩
  unfold Squares Pool.closing
  simp only [shown_append, List.filterMap_append, hnone, hplaces, hlast, List.append_nil,
    List.nil_append, List.flatMap_nil, List.flatMap_singleton]
  exact (List.perm_append_singleton _ _).symm

/-! ### Turns -/

/-- A pool fits together, and its table is for its own device. -/
structure Pool.Standing (pool : Pool) : Prop where
  intact : pool.Intact
  device_eq : pool.table.device = pool.device

theorem Pool.Standing.with_free {pool : Pool} (h : pool.Standing) (free : FreeStack) :
    ({ pool with free := free } : Pool).Standing := ⟨h.intact.with_free free, h.device_eq⟩

structure Owner.Stands (o : Owner σ) (mappers : List (Option MapperId)) : Prop where
  standing : ∀ pool ∈ o.pools, pool.Standing
  mappers_eq : o.pools.map (·.table.mapper) = mappers

/-- A turn does not abort, keeps the accounts squared, and leaves pools with these mappers. -/
structure Turn.Accounts (turn : Turn σ) (before : List Pool) (mappers : List (Option MapperId)) :
    Prop where
  alive : turn.aborted = false
  squares : Squares turn.events before turn.owner.pools
  stands : turn.owner.Stands mappers

/-- The action says nothing and changes the stack of a pool at most. -/
def Action.Handles (a : Action Pool ε α) : Prop :=
  ∀ pool, callsOf (a.run pool).events = [] ∧ (a.run pool).outcome.aborted = false ∧
    ∃ free, (a.run pool).state = { pool with free := free }

theorem Pool.allocate_handles : Pool.allocate.Handles := by
  intro pool
  show callsOf (Pool.allocate pool).events = [] ∧ (Pool.allocate pool).outcome.aborted = false ∧
    ∃ free, (Pool.allocate pool).state = _
  rw [Pool.allocate]
  rcases pool.free.pop with cause | ⟨virt, rest⟩
  · exact ⟨rfl, rfl, pool.free, rfl⟩
  · cases hbus : pool.toBus? virt with
    | some bus =>
      simp only [hbus]
      exact ⟨rfl, rfl, rest, rfl⟩
    | none =>
      simp only [hbus]
      exact ⟨rfl, rfl, rest, rfl⟩

theorem Pool.giveBack_handles (va : VirtAddr) : (Pool.giveBack va).Handles := by
  intro pool
  obtain ⟨free, answer, hrun⟩ := pool.run_giveBack_frame va
  rw [hrun]
  cases answer <;> exact ⟨rfl, rfl, free, rfl⟩

theorem Pool.mapSpan_handles (va : VirtAddr) (len : UInt64) (direction : Direction) :
    Action.Handles fun pool => (pool.mapSpan va len direction).run pool := by
  intro pool
  show callsOf ((pool.mapSpan va len direction).run pool).events = [] ∧
    ((pool.mapSpan va len direction).run pool).outcome.aborted = false ∧
      ∃ free, ((pool.mapSpan va len direction).run pool).state = _
  unfold Pool.mapSpan
  split_ifs
  · cases pool.table.pageOfSpan? va len with
    | none => exact ⟨rfl, rfl, pool.free, rfl⟩
    | some record =>
      cases hoffset : record.virtRange.offsetOf? va with
      | none =>
        simp only [hoffset]
        exact ⟨rfl, rfl, pool.free, rfl⟩
      | some offset =>
        simp only [hoffset]
        refine ⟨rfl, ?_, pool.free, rfl⟩
        show (record.bus.add offset).aborted = false
        unfold Address.add
        cases record.bus.add? offset <;> rfl
  · exact ⟨rfl, rfl, pool.free, rfl⟩

theorem Pool.unmapSpan_handles (bus : BusAddr) (len : UInt64) (direction : Direction) :
    Action.Handles fun pool => (pool.unmapSpan bus len direction).run pool := by
  intro pool
  show callsOf ((pool.unmapSpan bus len direction).run pool).events = [] ∧
    ((pool.unmapSpan bus len direction).run pool).outcome.aborted = false ∧
      ∃ free, ((pool.unmapSpan bus len direction).run pool).state = _
  unfold Pool.unmapSpan
  cases pool.toVirtual? bus with
  | none => exact ⟨rfl, rfl, pool.free, rfl⟩
  | some va =>
    simp only
    split_ifs <;> exact ⟨rfl, rfl, pool.free, rfl⟩

namespace Owner

variable {o : Owner σ} {mappers : List (Option MapperId)}

/-- Working with a pool changes nothing that it holds. -/
theorem Stands.work (h : o.Stands mappers) (index : Nat) {a : Action Pool ε α} (ha : a.Handles) :
    (o.work index a).Accounts o.pools mappers := by
  unfold Owner.work
  cases hpool : o.pools[index]? with
  | none => exact ⟨rfl, .of_silent rfl rfl, h⟩
  | some pool =>
    obtain ⟨hcalls, halive, free, hstate⟩ := ha pool
    have hassets : (o.pools.set index { pool with free := free }).map Pool.assets
        = o.pools.map Pool.assets := map_set_of_eq hpool rfl
    simp only [hstate]
    refine ⟨halive, .of_silent hcalls hassets.symm, fun other hother => ?_, ?_⟩
    · rcases List.mem_or_eq_of_mem_set hother with hother | rfl
      · exact h.standing other hother
      · exact (h.standing pool (List.mem_of_getElem? hpool)).with_free free
    · rw [← h.mappers_eq]
      exact map_set_of_eq hpool rfl

/-- A pool that is given away says how it is destroyed, and nothing else. -/
theorem Stands.part (h : o.Stands mappers) (index : Nat) {p : Platform σ} {a : Pool → Action σ ε α}
    (ha : ∀ pool, (a pool).Ends p pool) (hkept : ∀ e ∈ (o.part index a).events, e.Kept) :
    (o.part index a).Accounts o.pools (mappers.eraseIdx index) ∧
      ∀ pool, o.pools[index]? = some pool →
        callsOf (o.part index a).events = shown pool.closing ∧
        (o.part index a).owner.pools = o.pools.eraseIdx index := by
  unfold Owner.part at hkept ⊢
  cases hpool : o.pools[index]? with
  | none =>
    have hlength : mappers.length ≤ index := by
      rw [← h.mappers_eq, List.length_map]
      exact List.getElem?_eq_none_iff.mp hpool
    rw [List.eraseIdx_of_length_le hlength]
    exact ⟨⟨rfl, .of_silent rfl rfl, h⟩, nofun⟩
  | some pool =>
    simp only [hpool] at hkept ⊢
    obtain ⟨story, hshows, hmeets⟩ := ha pool o.state hkept
    have hends : story = pool.closing ∧ ((a pool).run o.state).outcome.aborted = false := by
      rcases hmeets.cases with ⟨value, hout, hstory⟩ | ⟨fault, hout, hstory⟩
      · exact ⟨hstory, by rw [hout]; rfl⟩
      · exact ⟨hstory, by rw [hout]; cases fault <;> rfl⟩
    have hcalls : callsOf ((a pool).run o.state).events = shown pool.closing := by
      rw [hshows.calls_eq, hends.1]
    -- the pool that goes stands anywhere in the list
    have hperm : o.pools.Perm ([pool] ++ o.pools.eraseIdx index) := by
      obtain ⟨hindex, rfl⟩ := List.getElem?_eq_some_iff.mp hpool
      exact (List.getElem_cons_eraseIdx_perm hindex).symm
    refine ⟨⟨hends.2, ?_, fun other hother => ?_, ?_⟩, ?_⟩
    · rw [← squares_callsOf, hcalls]
      exact (pool.squares_closing.frame (o.pools.eraseIdx index)).perm_left hperm
    · exact h.standing other (List.mem_of_mem_eraseIdx hother)
    · rw [← h.mappers_eq, List.eraseIdx_map]
    · intro other hother
      cases hother
      exact ⟨hcalls, trivial⟩

/-- What an attempt to make a pool takes is what the pool holds, if one is made. -/
theorem Stands.keep (h : o.Stands mappers) {pool : α → Pool} {t : Trace σ ε α}
    (ht : t.outcome.Meets
      (fun value => (pool value).Standing ∧ (pool value).table.mapper = o.context.mapper ∧
        Squares t.events [] [pool value])
      fun _ => Squares t.events [] []) :
    (o.keep pool t).Accounts o.pools
      (List.replicate ((o.keep pool t).owner.pools.length - o.pools.length) o.context.mapper
        ++ mappers) := by
  unfold Owner.keep
  rcases ht.cases with ⟨value, hout, hstanding, hmapper, hsquares⟩ | ⟨fault, hout, hsquares⟩
  · simp only [hout]
    refine ⟨rfl, hsquares.frame o.pools, ?_, ?_⟩
    · exact List.forall_mem_cons.mpr ⟨hstanding, h.standing⟩
    · simp [h.mappers_eq, hmapper]
  · -- an error and a panic are treated alike
    cases fault
    all_goals
      simp only [hout, Fault.outcome]
      refine ⟨rfl, hsquares.frame o.pools, h.standing, ?_⟩
      simp [h.mappers_eq]

end Owner

/-! ### Making pools -/

/-- The calls of an attempt to make a pool account for what the new pool holds. -/
theorem Pool.create_accounts (p : Platform σ) (mapper : Option MapperId) (config : Config) (s : σ)
    (hkept : ∀ e ∈ ((Pool.create p mapper config).run s).events, e.Kept ∧ ¬ e.Faulty) :
    ((Pool.create p mapper config).run s).outcome.Meets
      (fun pool => pool.Standing ∧ pool.table.mapper = mapper ∧
        Squares ((Pool.create p mapper config).run s).events [] [pool])
      fun _ => Squares ((Pool.create p mapper config).run s).events [] [] := by
  obtain ⟨story, hshows, hmeets⟩ :=
    Pool.create_tells p mapper config s fun e he => (hkept e he).1
  have hfaultless : Faultless (shown story) := by
    intro e he
    rw [← hshows.calls_eq] at he
    exact (hkept e (List.mem_of_mem_filter he)).2
  rcases hmeets.cases with ⟨pool, hout, hattempt⟩ | ⟨fault, hout, hattempt⟩
  · obtain ⟨hsame, hsquares⟩ := hattempt.squares hfaultless
    obtain ⟨hintact, -, hmapper, hdevice, -⟩ := Pool.create_eq_ok hout
    rw [hout]
    refine ⟨⟨hintact, ?_⟩, hmapper, ?_⟩
    · rw [hdevice, hsame]
    · rw [← squares_callsOf, hshows.calls_eq]
      exact hsquares
  · have hsquares := Outcome.meets_fault.mp (hattempt.squares hfaultless)
    rw [hout]
    apply Outcome.meets_fault.mpr
    rw [← squares_callsOf, hshows.calls_eq]
    exact hsquares

theorem Context.single_accounts (c : Context σ) (name : String) (device : Device) (size : UInt64)
    (s : σ)
    (hkept : ∀ e ∈ ((c.singleBuffer name device size).run s).events, e.Kept ∧ ¬ e.Faulty) :
    ((c.singleBuffer name device size).run s).outcome.Meets
      (fun value => value.2.Standing ∧ value.2.table.mapper = c.mapper ∧
        Squares ((c.singleBuffer name device size).run s).events [] [value.2])
      fun _ => Squares ((c.singleBuffer name device size).run s).events [] [] := by
  have haccounts := Pool.create_accounts c.platform c.mapper _ s fun e he =>
    hkept e (Action.events_subset_bind _ _ _ he)
  rcases haccounts.cases with ⟨pool, hout, hstanding, hmapper, hsquares⟩ | ⟨fault, hout, hsquares⟩
  · obtain ⟨buffer, rest, hrun⟩ := Owner.run_singleBuffer_of_made rfl hout
    rw [hrun]
    exact ⟨hstanding.with_free rest, hmapper, hsquares⟩
  · rw [Context.singleBuffer, Context.createPool, Action.run_bind_of_fault hout]
    exact Outcome.meets_fault.mpr hsquares

/-! ### Courses -/

/-- What the owner of a context does, transfers included. -/
inductive Errand where
  | deed (deed : Deed)
  | mapSpan (index : Nat) (va : VirtAddr) (len : UInt64) (direction : Direction)
  | unmapSpan (index : Nat) (bus : BusAddr) (len : UInt64) (direction : Direction)

/-- The pool that is destroyed, if one is. -/
def Errand.ended? : Errand → Option Nat
  | .deed (.destroy index) => some index
  | .deed (.giveBackSingle index _) => some index
  | _ => none

def Owner.perform (o : Owner σ) : Errand → Turn σ
  | .deed deed => o.turn deed
  | .mapSpan index va len direction =>
    o.work index fun pool => (pool.mapSpan va len direction).run pool
  | .unmapSpan index bus len direction =>
    o.work index fun pool => (pool.unmapSpan bus len direction).run pool

/-- The mappers that were installed when the pools were made that are left after an errand: a new
pool comes first. -/
def Owner.installedAfter (o : Owner σ) (errand : Errand) (installed : List (Option MapperId)) :
    List (Option MapperId) :=
  match errand.ended? with
  | some index => installed.eraseIdx index
  | none =>
    List.replicate ((o.perform errand).owner.pools.length - o.pools.length) o.context.mapper
      ++ installed

/-- What the owner of a context has done so far. -/
structure Course (σ : Type) where
  owner : Owner σ
  /-- For each of the pools that are left, the mapper that was installed when it was made. -/
  installed : List (Option MapperId) := []
  events : List Event := []
  aborted : Bool := false

namespace Course

/-- The course after one errand more, unless the process has aborted. -/
def after (c : Course σ) (errand : Errand) : Course σ :=
  if c.aborted then c
  else
    let turn := c.owner.perform errand
    { owner := turn.owner
      installed := c.owner.installedAfter errand c.installed
      events := c.events ++ turn.events
      aborted := turn.aborted }

def afterAll (c : Course σ) (errands : List Errand) : Course σ := errands.foldl after c

/-- What the pools that are left should hold, by the mappers that were installed when they were
made. -/
def assets (c : Course σ) : List Asset :=
  (c.owner.pools.zip c.installed).flatMap fun (pool, mapper) => pool.assetsThrough mapper

end Course

/-- The calls by which a pool is destroyed that was made with a mapper, or with none. -/
def Pool.closingCalls (pool : Pool) (mapper : Option MapperId) : List Event :=
  (match mapper with
    | some mapper =>
      pool.hugePages.map fun r => .unmapBus mapper pool.device r.bus hugePageSize (.ok ())
    | none => []) ++ [.unmapPages pool.lease.start pool.lease.len]

theorem Pool.Standing.assets_eq {pool : Pool} (h : pool.Standing) :
    pool.assets = pool.assetsThrough pool.table.mapper := by
  unfold Pool.assets Pool.assetsThrough PageTable.places
  rw [h.device_eq]
  rfl

theorem Pool.Standing.shown_closing {pool : Pool} (h : pool.Standing) :
    shown pool.closing = pool.closingCalls pool.table.mapper := by
  rw [Pool.shown_closing, h.device_eq]
  rfl

namespace Owner.Stands

variable {o : Owner σ} {mappers : List (Option MapperId)}

theorem length_eq (h : o.Stands mappers) : o.pools.length = mappers.length := by
  rw [← h.mappers_eq, List.length_map]

/-- As long as the mappers are the same, no pool is new. -/
theorem same (h : o.Stands mappers) {turn : Turn σ} (hturn : turn.Accounts o.pools mappers)
    (mapper : Option MapperId) :
    turn.Accounts o.pools
      (List.replicate (turn.owner.pools.length - o.pools.length) mapper ++ mappers) := by
  rw [hturn.stands.length_eq, h.length_eq, Nat.sub_self]
  exact hturn

/-- **One errand** keeps the accounts, however it ends. -/
theorem perform (h : o.Stands mappers) (errand : Errand)
    (hkept : ∀ e ∈ (o.perform errand).events, e.Kept ∧ ¬ e.Faulty) :
    (o.perform errand).Accounts o.pools (o.installedAfter errand mappers) := by
  have hkept' : ∀ e ∈ (o.perform errand).events, e.Kept := fun e he => (hkept e he).1
  cases errand with
  | mapSpan index va len direction =>
    exact h.same (h.work index (Pool.mapSpan_handles va len direction)) _
  | unmapSpan index bus len direction =>
    exact h.same (h.work index (Pool.unmapSpan_handles bus len direction)) _
  | deed deed =>
    cases deed with
    | setMapper mapper => exact h.same ⟨rfl, .of_silent rfl rfl, h.standing, h.mappers_eq⟩ _
    | clearMapper => exact h.same ⟨rfl, .of_silent rfl rfl, h.standing, h.mappers_eq⟩ _
    | create config =>
      exact h.keep (Pool.create_accounts o.context.platform o.context.mapper config o.state hkept)
    | single name device size =>
      exact h.keep (o.context.single_accounts name device size o.state hkept)
    | allocate index => exact h.same (h.work index Pool.allocate_handles) _
    | giveBack index va => exact h.same (h.work index (Pool.giveBack_handles va)) _
    | giveBackSingle index buffer =>
      exact (h.part index (fun pool => pool.giveBackSingle_ends o.context.platform buffer)
        hkept').1
    | destroy index => exact (h.part index (Pool.release_ends o.context.platform) hkept').1

/-- A pool that is destroyed says how, and nothing else. -/
theorem perform_ended (h : o.Stands mappers) {errand : Errand} {index : Nat} {pool : Pool}
    (hended : errand.ended? = some index) (hpool : o.pools[index]? = some pool)
    (hkept : ∀ e ∈ (o.perform errand).events, e.Kept) :
    callsOf (o.perform errand).events = shown pool.closing ∧
      (o.perform errand).owner.pools = o.pools.eraseIdx index := by
  cases errand with
  | mapSpan index va len direction => cases hended
  | unmapSpan index bus len direction => cases hended
  | deed deed =>
    cases deed with
    | giveBackSingle index buffer =>
      cases hended
      exact (h.part index (fun pool => pool.giveBackSingle_ends o.context.platform buffer)
        hkept).2 pool hpool
    | destroy index =>
      cases hended
      exact (h.part index (Pool.release_ends o.context.platform) hkept).2 pool hpool
    | _ => cases hended

end Owner.Stands

namespace Course

/-- The process is alive, and the accounts are squared. -/
structure Sound (c : Course σ) : Prop where
  alive : c.aborted = false
  squares : Squares c.events [] c.owner.pools
  stands : c.owner.Stands c.installed

theorem Sound.new (context : Context σ) (state : σ) :
    ({ owner := ⟨context, state, []⟩ } : Course σ).Sound where
  alive := rfl
  squares := List.Perm.refl _
  stands := ⟨List.forall_mem_nil _, rfl⟩

variable {c : Course σ}

theorem Sound.after (h : c.Sound) (errand : Errand)
    (hkept : ∀ e ∈ (c.after errand).events, e.Kept ∧ ¬ e.Faulty) : (c.after errand).Sound := by
  have hafter : c.after errand = ⟨(c.owner.perform errand).owner,
      c.owner.installedAfter errand c.installed, c.events ++ (c.owner.perform errand).events,
      (c.owner.perform errand).aborted⟩ := by
    rw [Course.after, h.alive]
    rfl
  rw [hafter] at hkept ⊢
  have haccounts := h.stands.perform errand (List.forall_mem_append.mp hkept).2
  exact ⟨haccounts.alive, h.squares.append haccounts.squares, haccounts.stands⟩

theorem events_subset_afterAll (c : Course σ) (errands : List Errand) :
    c.events ⊆ (c.afterAll errands).events := by
  induction errands generalizing c with
  | nil => exact List.Subset.refl _
  | cons errand rest ih =>
    refine List.Subset.trans ?_ (ih (c.after errand))
    unfold after
    split_ifs
    · exact List.Subset.refl _
    · exact List.subset_append_left _ _

/-- **All errands** keep the accounts squared. -/
theorem Sound.afterAll (h : c.Sound) (errands : List Errand)
    (hkept : ∀ e ∈ (c.afterAll errands).events, e.Kept ∧ ¬ e.Faulty) :
    (c.afterAll errands).Sound := by
  -- on the errands, with the course that those before have left
  induction errands generalizing c with
  | nil => exact h
  | cons errand rest ih =>
    refine ih (h.after errand fun e he => ?_) hkept
    exact hkept e (events_subset_afterAll (c.after errand) rest he)

/-- What pools hold is what they should hold by the mappers that were installed. -/
theorem Sound.assets_eq (h : c.Sound) : c.owner.pools.flatMap Pool.assets = c.assets := by
  have hzip : c.owner.pools.zip c.installed
      = c.owner.pools.map fun pool => (pool, pool.table.mapper) := by
    rw [← h.stands.mappers_eq, List.map_prod_left_eq_zip]
  rw [Course.assets, hzip, List.flatMap_map]
  exact List.flatMap_congr fun pool hpool => (h.stands.standing pool hpool).assets_eq

/-- **Accounts**: whatever the owner of a context does, one thing after the other, and however these
end, what was taken and not returned is what the pools hold that are left: each its huge pages, and
a place for each of them on the bus of its device, from the mapper that was installed when the pool
was made.  A pool that is destroyed returns these places through that mapper, in the order of the
pages, and then the huge pages. -/
theorem assets_accounted (context : Context σ) (state : σ) (errands : List Errand)
    (hkept : ∀ e ∈ (afterAll { owner := ⟨context, state, []⟩ } errands).events,
      e.Kept ∧ ¬ e.Faulty) :
    let c := afterAll { owner := ⟨context, state, []⟩ } errands
    c.aborted = false ∧ c.installed.length = c.owner.pools.length ∧
    (c.events.filterMap Event.taken?).Perm (c.events.filterMap Event.returned? ++ c.assets) ∧
    ∀ index pool mapper, c.owner.pools[index]? = some pool →
      c.installed[index]? = some mapper →
        (pool.geometry.mappedLen : Outcome CreateError UInt64) = .ok pool.lease.len ∧
        pool.hugePages.map (·.virt.toNat) = (List.range pool.geometry.hugePages.toNat).map
          (fun k => pool.lease.start.toNat + k * hugePageSize.toNat) ∧
        ∀ errand, errand.ended? = some index →
          (∀ e ∈ (c.owner.perform errand).events, e.Kept) →
            callsOf (c.owner.perform errand).events = pool.closingCalls mapper ∧
            (c.owner.perform errand).owner.pools = c.owner.pools.eraseIdx index := by
  intro c
  have hsound : c.Sound := (Sound.new context state).afterAll errands hkept
  refine ⟨hsound.alive, hsound.stands.length_eq.symm, ?_, ?_⟩
  · rw [← hsound.assets_eq]
    have hsquares := hsound.squares
    rwa [Squares, List.flatMap_nil, List.append_nil] at hsquares
  · intro index pool mapper hpool hmapper
    have hstanding := hsound.stands.standing pool (List.mem_of_getElem? hpool)
    have hintact := hstanding.intact
    have hsame : pool.table.mapper = mapper := by
      rw [← hsound.stands.mappers_eq, List.getElem?_map, hpool] at hmapper
      exact Option.some.inj hmapper
    refine ⟨?_, hintact.pages, fun errand hended hkept' => ?_⟩
    · obtain ⟨len, hlen, hnat⟩ := hintact.sound.mappedLen_eq_ok (ε := CreateError)
      rw [hlen]
      exact congrArg _ (UInt64.toNat_inj.mp (hnat.trans hintact.recorded.symm))
    · obtain ⟨hcalls, hpools⟩ := hsound.stands.perform_ended hended hpool hkept'
      rw [hcalls, hstanding.shown_closing, hsame]
      exact ⟨rfl, hpools⟩

/-- Mapper 0 shows the pages of a first pool and refuses the first page of a second one, which is
not made.  Mapper 1 comes in its place and is removed again.  The first pool is still destroyed
through mapper 0. -/
theorem assets_accounted_replaced_mapper :
    let script : Script :=
      { mappers := [{ distance := 4096, refusedMaps := [3] }, { distance := 8192 }] }
    let errands : List Errand :=
      [.deed (.setMapper 0), .deed (.create ⟨"rx", {}, 1048576, 3, 64⟩),
        .deed (.create ⟨"rx", {}, 1048576, 3, 64⟩), .deed (.setMapper 1),
        .deed (.single "tx" {} 64), .deed .clearMapper, .deed (.create ⟨"log", {}, 64, 1, 64⟩),
        .deed (.allocate 0), .mapSpan 0 ⟨4305457152⟩ 64 .toDevice]
    let c := afterAll { owner := ⟨⟨script.platform, none⟩, script.start, []⟩ } errands
    (∀ e ∈ c.events, e.Kept ∧ ¬ e.Faulty) ∧ c.installed = [none, some 1, some 0] ∧
      (c.events.filterMap Event.taken?).Perm (c.events.filterMap Event.returned? ++ c.assets) ∧
      ∃ pool, c.owner.pools[2]? = some pool ∧
        callsOf (c.owner.perform (.deed (.destroy 2))).events = pool.closingCalls (some 0) := by
  intro script errands c
  have hkept : ∀ e ∈ c.events, e.Kept ∧ ¬ e.Faulty := by decide +kernel
  have hinstalled : c.installed = [none, some 1, some 0] := by decide +kernel
  have hdestroy : ∀ e ∈ (c.owner.perform (.deed (.destroy 2))).events, e.Kept := by decide +kernel
  obtain ⟨-, -, haccounts, hpools⟩ :=
    assets_accounted ⟨script.platform, none⟩ script.start errands hkept
  obtain ⟨pool, hpool⟩ : ∃ pool, c.owner.pools[2]? = some pool :=
    Option.isSome_iff_exists.mp (by decide +kernel)
  refine ⟨hkept, hinstalled, haccounts, pool, hpool, ?_⟩
  have hmapper : c.installed[2]? = some (some 0) := by
    rw [hinstalled]
    rfl
  exact ((hpools 2 pool (some 0) hpool hmapper).2.2 (.deed (.destroy 2)) rfl hdestroy).1

end Course

end HugePool
