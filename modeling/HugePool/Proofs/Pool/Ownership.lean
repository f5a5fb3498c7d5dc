import HugePool.Platform.Scripted
import HugePool.Proofs.Pool.Custody
import HugePool.Proofs.Pool.Unwinding

/-!
# When pages can still be reached after they were given back

An `Owner` has a context and the pools made with it.  What it does is a list of `Deed`s; each takes
one `Turn`, which may fail or panic, and then the next one is taken with the pools that are left.
When the process aborts, the turn in which it does is the last.

* `Owner.Balanced`: the pages that devices can reach are those of the pools that are left, and the
  source of huge pages has handed these pages out.
* `Owner.turn_settles`: a turn without a fault gives pages back only when nobody can reach them, and
  one with a fault gives them back too early.  Either way the books are balanced again as long as
  the turn can be read as an orderly one.
* `Owner.orderly_iff_faultless`: hence a journal is orderly if and only if no turn has a fault, save
  for one in which the process aborts.

There are two kinds of faults.  A mapper refuses to unmap a page: the pool panics, does not unmap
the pages after this one, and gives all of its pages back.  Or a mapper answers a bus address that
has no room for a page: the pool panics before it has recorded the page, which therefore is never
unmapped, and gives its pages back as well.
-/

namespace HugePool

/-- What the owner of a context does. -/
inductive Deed where
  | setMapper (mapper : MapperId)
  | clearMapper
  | create (config : Config)
  | single (name : String) (device : Device) (size : UInt64)
  | allocate (index : Nat)
  | giveBack (index : Nat) (va : VirtAddr)
  | giveBackSingle (index : Nat) (buffer : Buffer)
  | destroy (index : Nat)

/-- A context, the state of its platform, and the pools that are left. -/
structure Owner (σ : Type) where
  context : Context σ
  state : σ
  pools : List Pool := []

/-- What a deed shows, and what it leaves. -/
structure Turn (σ : Type) where
  events : List Event
  aborted : Bool
  owner : Owner σ

/-- The process aborted. -/
def Outcome.aborted {ε α : Type} : Outcome ε α → Bool
  | .abort => true
  | _ => false

namespace Owner

variable {σ ε α : Type}

/-- Keeps a pool, if one was made. -/
def keep (o : Owner σ) (pool : α → Pool) (t : Trace σ ε α) : Turn σ where
  events := t.events
  aborted := t.outcome.aborted
  owner := match t.outcome with
    | .ok value => { o with state := t.state, pools := pool value :: o.pools }
    | _ => { o with state := t.state }

/-- Works with a pool and keeps it. -/
def work (o : Owner σ) (index : Nat) (a : Action Pool ε α) : Turn σ :=
  match o.pools[index]? with
  | some pool =>
    let t := a.run pool
    ⟨t.events, t.outcome.aborted, { o with pools := o.pools.set index t.state }⟩
  | none => ⟨[], false, o⟩

/-- Gives a pool away. -/
def part (o : Owner σ) (index : Nat) (a : Pool → Action σ ε α) : Turn σ :=
  match o.pools[index]? with
  | some pool =>
    let t := (a pool).run o.state
    ⟨t.events, t.outcome.aborted, { o with state := t.state, pools := o.pools.eraseIdx index }⟩
  | none => ⟨[], false, o⟩

/-- Lets the owner do something. -/
def turn (o : Owner σ) : Deed → Turn σ
  | .setMapper mapper => ⟨[], false, { o with context := o.context.setMapper mapper }⟩
  | .clearMapper => ⟨[], false, { o with context := o.context.clearMapper }⟩
  | .create config => o.keep id ((o.context.createPool config).run o.state)
  | .single name device size =>
    o.keep Prod.snd ((o.context.singleBuffer name device size).run o.state)
  | .allocate index => o.work index Pool.allocate
  | .giveBack index va => o.work index (Pool.giveBack va)
  | .giveBackSingle index buffer =>
    o.part index fun pool => pool.giveBackSingle o.context.platform buffer
  | .destroy index => o.part index fun pool => pool.release o.context.platform

/-- What the owner does one after the other, up to a turn in which the process aborts. -/
def turns (o : Owner σ) : List Deed → List (Turn σ)
  | [] => []
  | deed :: rest =>
    if (o.turn deed).aborted then [o.turn deed]
    else o.turn deed :: (o.turn deed).owner.turns rest

end Owner

/-- The events of turns. -/
def journal {σ : Type} (turns : List (Turn σ)) : List Event := turns.flatMap (·.events)

/-! ### The books -/

namespace Owner

variable {σ ε α : Type}

/-- The pages that devices can reach are those of the pools, and these were handed out. -/
structure Balanced (o : Owner σ) (leases : List Lease) (l : Ledger) : Prop where
  intact : ∀ pool ∈ o.pools, pool.Intact
  separate : Separate leases
  held : (o.pools.map Pool.lease).Subperm leases
  exposed : l.exposed.Perm (o.pools.flatMap (·.table.exposed))

theorem Balanced.new (context : Context σ) (state : σ) :
    (⟨context, state, []⟩ : Owner σ).Balanced [] {} where
  intact := List.forall_mem_nil _
  separate := ⟨List.forall_mem_nil _, List.Pairwise.nil⟩
  held := List.Subperm.refl _
  exposed := List.Perm.refl _

/-- Only the pools matter to the books. -/
theorem Balanced.of_pools_eq {o o' : Owner σ} {leases : List Lease} {l : Ledger}
    (h : o.Balanced leases l) (hpools : o'.pools = o.pools) : o'.Balanced leases l where
  intact := hpools ▸ h.intact
  separate := h.separate
  held := hpools ▸ h.held
  exposed := hpools ▸ h.exposed

/-- What a device can reach belongs to one of the pools. -/
theorem Balanced.exists_lease {o : Owner σ} {leases : List Lease} {l : Ledger}
    (h : o.Balanced leases l) {e : Exposure} (he : e ∈ l.exposed) :
    ∃ lease ∈ leases, e.Within lease.start lease.len := by
  obtain ⟨pool, hpool, hmem⟩ := List.mem_flatMap.mp (h.exposed.mem_iff.mp he)
  exact ⟨pool.lease, h.held.subset (List.mem_map_of_mem hpool), (h.intact pool hpool).within hmem⟩

end Owner

/-- A turn can be read as an orderly one if it has no fault or is the last one.  If it is not the
last one, it has no fault when it is read so, and leaves balanced books. -/
structure Turn.Settles {σ : Type} (turn : Turn σ) (leases : List Lease) (l : Ledger) : Prop where
  exists_run : turn.aborted = true ∨ Faultless turn.events → ∃ l', Ledger.Run l turn.events l'
  balanced : turn.aborted = false → ∀ l', Ledger.Run l turn.events l' →
    Faultless turn.events ∧ turn.owner.Balanced (outstanding leases turn.events) l'

namespace Turn.Settles

variable {σ : Type} {turn : Turn σ} {leases : List Lease} {l : Ledger}

theorem of_aborted (haborted : turn.aborted = true) (hrun : ∃ l', Ledger.Run l turn.events l') :
    turn.Settles leases l where
  exists_run _ := hrun
  balanced halive := absurd (halive.symm.trans haborted) Bool.false_ne_true

theorem of_alive (halive : turn.aborted = false)
    (hexists : Faultless turn.events → ∃ l', Ledger.Run l turn.events l')
    (hbalanced : ∀ l', Ledger.Run l turn.events l' →
      Faultless turn.events ∧ turn.owner.Balanced (outstanding leases turn.events) l') :
    turn.Settles leases l where
  exists_run := by
    rintro (haborted | hfaultless)
    · exact absurd (halive.symm.trans haborted) Bool.false_ne_true
    · exact hexists hfaultless
  balanced _ := hbalanced

end Turn.Settles

theorem Trace.Closes.quiet_or_returns {σ ε α : Type} {start : VirtAddr} {len : UInt64}
    {base : List Exposure} {t : Trace σ ε α} (h : t.Closes start len base) :
    (t.outcome.aborted = true ∧ Quiet t.events) ∨
      (t.outcome.aborted = false ∧ Returns start len base t.events) := by
  rw [Trace.Closes] at h
  cases hout : t.outcome with
  | abort => rw [hout] at h; exact Or.inl ⟨rfl, h⟩
  | ok _ => rw [hout] at h; exact Or.inr ⟨rfl, h⟩
  | error _ => rw [hout] at h; exact Or.inr ⟨rfl, h⟩
  | panic _ => rw [hout] at h; exact Or.inr ⟨rfl, h⟩

/-- Taking a buffer makes at most a record, and changes the stack at most. -/
theorem Pool.run_allocate_frame (pool : Pool) :
    ∃ events free outcome, Pool.allocate.run pool = ⟨events, { pool with free := free }, outcome⟩ ∧
      ∀ e ∈ events, e.Plain ∧ e.Quiet := by
  show ∃ events free outcome, Pool.allocate pool = _ ∧ _
  rw [Pool.allocate]
  rcases pool.free.pop with cause | ⟨virt, rest⟩
  · exact ⟨[], pool.free, .error cause, rfl, List.forall_mem_nil _⟩
  · cases hbus : pool.toBus? virt with
    | some bus =>
      simp only [hbus]
      exact ⟨[], rest, _, rfl, List.forall_mem_nil _⟩
    | none =>
      simp only [hbus]
      exact ⟨_, rest, _, rfl, List.forall_mem_singleton.mpr ⟨trivial, trivial⟩⟩

namespace Owner

variable {σ ε α : Type} {o : Owner σ} {leases : List Lease} {l : Ledger}

/-- Events that neither expose nor hide a page leave the books balanced, even when pages are
lost. -/
theorem Balanced.settles_of_plain (h : o.Balanced leases l) {turn : Turn σ} {lost : List Lease}
    (hplain : ∀ e ∈ turn.events, e.Plain)
    (hlost : outstanding leases turn.events = lost ++ leases)
    (hseparate : Separate (lost ++ leases))
    (hintact : ∀ pool ∈ turn.owner.pools, pool.Intact)
    (hlease : turn.owner.pools.map Pool.lease = o.pools.map Pool.lease)
    (hexposed : turn.owner.pools.map (·.table.exposed) = o.pools.map (·.table.exposed)) :
    turn.Settles leases l where
  exists_run _ := (Adds.of_plain hplain).exists_run l
  balanced _ l' hrun := by
    refine ⟨faultless_of_plain hplain, hintact, hlost ▸ hseparate, ?_, ?_⟩
    · rw [hlost, hlease]
      exact h.held.trans (List.sublist_append_right lost leases).subperm
    · rw [(Adds.of_plain hplain).exposed_eq hrun, List.flatMap_def, hexposed, ← List.flatMap_def]
      exact h.exposed

theorem Balanced.settles_of_quiet (h : o.Balanced leases l) {turn : Turn σ}
    (hplain : ∀ e ∈ turn.events, e.Plain ∧ e.Quiet)
    (hintact : ∀ pool ∈ turn.owner.pools, pool.Intact)
    (hlease : turn.owner.pools.map Pool.lease = o.pools.map Pool.lease)
    (hexposed : turn.owner.pools.map (·.table.exposed) = o.pools.map (·.table.exposed)) :
    turn.Settles leases l := by
  have hsame : outstanding leases turn.events = [] ++ leases :=
    outstanding_of_quiet (fun e he => (hplain e he).2) leases
  exact h.settles_of_plain (fun e he => (hplain e he).1) hsame h.separate hintact hlease hexposed

/-- A turn that gives back what it took leaves the books as they were. -/
theorem Balanced.settles_of_returned (h : o.Balanced leases l) {turn : Turn σ}
    (halive : turn.aborted = false) (hpools : turn.owner.pools = o.pools) {lease : Lease}
    {first second : List Event} (hevents : turn.events = first ++ second)
    (hplain : ∀ e ∈ first, e.Plain) (hlease : outstanding leases first = lease :: leases)
    (hreturns : Returns lease.start lease.len [] second) (hseparate : Separate (lease :: leases)) :
    turn.Settles leases l := by
  have hadds := Adds.of_plain hplain
  -- the pages that were handed out are not among those of the pools
  have hothers : ∀ e ∈ l.exposed, ¬ e.Within lease.start lease.len := by
    intro e he
    obtain ⟨other, hother, hwithin⟩ := h.exists_lease he
    exact ((List.pairwise_cons.mp hseparate.2).1 other hother).not_within hwithin
  have hsettle : ∀ next, Ledger.Run l first next →
      (Faultless second → ∃ l', Ledger.Run next second l') ∧
        ∀ l', Ledger.Run next second l' → Faultless second ∧ l'.exposed.Perm l.exposed := by
    intro next hnext
    have hsame : next.exposed = l.exposed := hadds.exposed_eq hnext
    exact hreturns.settle (hsame ▸ List.Perm.refl _) hothers
  refine .of_alive halive (fun hfaultless => ?_) fun l' hrun => ?_
  · rw [hevents] at hfaultless ⊢
    obtain ⟨next, hnext⟩ := hadds.exists_run l
    obtain ⟨l', hrun⟩ := (hsettle next hnext).1 (faultless_append.mp hfaultless).2
    exact ⟨l', Ledger.run_append.mpr ⟨next, hnext, hrun⟩⟩
  · rw [hevents] at hrun ⊢
    obtain ⟨next, hnext, hrun⟩ := Ledger.run_append.mp hrun
    obtain ⟨hfaultless, hperm⟩ := (hsettle next hnext).2 l' hrun
    refine ⟨faultless_append.mpr ⟨faultless_of_plain hplain, hfaultless⟩, ?_⟩
    rw [outstanding_append, hlease, hreturns.outstanding, List.erase_cons_head]
    refine Balanced.of_pools_eq ?_ hpools
    exact ⟨h.intact, h.separate, h.held, hperm.trans h.exposed⟩

theorem Balanced.settles_of_undone (h : o.Balanced leases l) {turn : Turn σ}
    (halive : turn.aborted = false) (hpools : turn.owner.pools = o.pools)
    (hundone : Undone leases turn.events) (hunaliased : Unaliased leases turn.events) :
    turn.Settles leases l := by
  cases hundone with
  | lost pages hplain hlost =>
    have hseparate := h.separate.outstanding hunaliased
    rw [hlost] at hseparate
    exact h.settles_of_plain hplain hlost hseparate (hpools ▸ h.intact) (by rw [hpools])
      (by rw [hpools])
  | returned lease first second hevents hplain hlease hreturns =>
    rw [hevents] at hunaliased
    have hseparate := h.separate.outstanding (unaliased_append.mp hunaliased).1
    rw [hlease] at hseparate
    exact h.settles_of_returned halive hpools hevents hplain hlease hreturns hseparate

/-- An attempt to make a pool leaves balanced books. -/
theorem Balanced.keep_settles (h : o.Balanced leases l) {pool : α → Pool} {t : Trace σ ε α}
    (hopens : t.Opens leases pool) (hunaliased : Unaliased leases t.events)
    (hintact : ∀ value, t.outcome = .ok value → (pool value).Intact) :
    (o.keep pool t).Settles leases l := by
  have hseparate := h.separate.outstanding hunaliased
  rw [Trace.Opens] at hopens
  cases hout : t.outcome with
  | ok value =>
    rw [hout] at hopens
    obtain ⟨hfaultless, ⟨made, hadds, hperm⟩, hlease⟩ := hopens
    have howner : (o.keep pool t).owner
        = { o with state := t.state, pools := pool value :: o.pools } := by rw [keep, hout]
    refine ⟨fun _ => hadds.exists_run l, fun _ l' hrun => ⟨hfaultless, ?_⟩⟩
    rw [howner]
    show Balanced _ (outstanding leases t.events) l'
    rw [hlease] at hseparate ⊢
    refine ⟨List.forall_mem_cons.mpr ⟨hintact value hout, h.intact⟩, hseparate, ?_, ?_⟩
    · exact (List.subperm_cons _).mpr h.held
    · rw [hadds.exposed_eq hrun]
      exact hperm.append h.exposed
  | abort =>
    rw [hout] at hopens
    exact .of_aborted (by rw [keep, hout]; rfl) (hopens l)
  | error cause =>
    rw [hout] at hopens
    exact h.settles_of_undone (by rw [keep, hout]; rfl) (by rw [keep, hout]) hopens hunaliased
  | panic cause =>
    rw [hout] at hopens
    exact h.settles_of_undone (by rw [keep, hout]; rfl) (by rw [keep, hout]) hopens hunaliased

/-- The books of one pool apart from those of the others. -/
theorem Balanced.split (h : o.Balanced leases l) {index : Nat} {pool : Pool}
    (hpool : o.pools[index]? = some pool) :
    l.exposed.Perm (pool.table.exposed ++ (o.pools.eraseIdx index).flatMap (·.table.exposed)) ∧
    (∀ e ∈ (o.pools.eraseIdx index).flatMap (·.table.exposed),
      ¬ e.Within pool.lease.start pool.lease.len) ∧
    ((o.pools.eraseIdx index).map Pool.lease).Subperm (leases.erase pool.lease) := by
  have hperm : (pool :: o.pools.eraseIdx index).Perm o.pools := by
    obtain ⟨hindex, rfl⟩ := List.getElem?_eq_some_iff.mp hpool
    exact List.getElem_cons_eraseIdx_perm hindex
  have hheld : (pool.lease :: (o.pools.eraseIdx index).map Pool.lease).Subperm leases :=
    (hperm.map Pool.lease).subperm.trans h.held
  have hapart : ∀ other ∈ o.pools.eraseIdx index, pool.lease.Apart other.lease := by
    obtain ⟨part, hpart, hsublist⟩ := hheld
    have hpairwise := (hpart.pairwise_iff Lease.Apart.symm).mp (h.separate.2.sublist hsublist)
    intro other hother
    exact (List.pairwise_cons.mp hpairwise).1 _ (List.mem_map_of_mem hother)
  refine ⟨h.exposed.trans (hperm.flatMap_right _).symm, fun e he => ?_, ?_⟩
  · obtain ⟨other, hother, he⟩ := List.mem_flatMap.mp he
    have hwithin := (h.intact other (List.mem_of_mem_eraseIdx hother)).within he
    exact (hapart other hother).not_within hwithin
  · have herase := hheld.erase pool.lease
    rwa [List.erase_cons_head] at herase

/-- Destroying a pool leaves balanced books, if it can be read as an orderly turn. -/
theorem Balanced.part_settles (h : o.Balanced leases l) (index : Nat) {a : Pool → Action σ ε α}
    (hcloses : ∀ pool, pool.Intact →
      ((a pool).run o.state).Closes pool.lease.start pool.lease.len pool.table.exposed) :
    (o.part index a).Settles leases l := by
  rw [part]
  cases hpool : o.pools[index]? with
  | none => exact h.settles_of_quiet (List.forall_mem_nil _) h.intact rfl rfl
  | some pool =>
    have hintact : pool.Intact := h.intact pool (List.mem_of_getElem? hpool)
    obtain ⟨hexposed, hothers, hheld⟩ := h.split hpool
    rcases (hcloses pool hintact).quiet_or_returns with ⟨haborted, hquiet⟩ | ⟨halive, hreturns⟩
    · exact .of_aborted haborted (Ledger.exists_run_of_quiet hquiet l)
    · obtain ⟨hexists, hsettled⟩ := hreturns.settle hexposed hothers
      refine .of_alive halive hexists fun l' hrun => ?_
      obtain ⟨hfaultless, hleft⟩ := hsettled l' hrun
      refine ⟨hfaultless, fun other hother => h.intact other (List.mem_of_mem_eraseIdx hother),
        ?_, ?_, hleft⟩
      · rw [hreturns.outstanding]
        exact h.separate.sublist List.erase_sublist
      · rw [hreturns.outstanding]
        exact hheld

/-- A member can be replaced by one that is no different. -/
theorem map_set_of_eq {β γ : Type} {f : β → γ} {list : List β} {i : Nat} {old new : β}
    (hold : list[i]? = some old) (h : f new = f old) : (list.set i new).map f = list.map f := by
  obtain ⟨hi, rfl⟩ := List.getElem?_eq_some_iff.mp hold
  have hi' : i < (list.map f).length := by rwa [List.length_map]
  have hsame := List.set_getElem_self hi'
  rwa [List.getElem_map, ← h, ← List.map_set] at hsame

/-- Working with a pool changes neither what it exposes nor what it holds. -/
theorem Balanced.work_settles (h : o.Balanced leases l) (index : Nat) {a : Action Pool ε α}
    (hframe : ∀ pool, ∃ events free outcome,
      a.run pool = ⟨events, { pool with free := free }, outcome⟩ ∧
        ∀ e ∈ events, e.Plain ∧ e.Quiet) :
    (o.work index a).Settles leases l := by
  rw [work]
  cases hpool : o.pools[index]? with
  | none => exact h.settles_of_quiet (List.forall_mem_nil _) h.intact rfl rfl
  | some pool =>
    obtain ⟨events, free, outcome, hrun, hplain⟩ := hframe pool
    simp only [hrun]
    refine h.settles_of_quiet hplain (fun other hother => ?_) ?_ ?_
    · rcases List.mem_or_eq_of_mem_set hother with hother | rfl
      · exact h.intact other hother
      · exact (h.intact pool (List.mem_of_getElem? hpool)).with_free free
    · exact map_set_of_eq hpool rfl
    · exact map_set_of_eq hpool rfl

/-- A pool of one buffer is what a new pool is when the buffer has been taken. -/
theorem run_singleBuffer_of_allocate {c : Context σ} {name : String} {device : Device}
    {size : UInt64} {s : σ} {t : Trace σ CreateError Pool} {pool left : Pool} {buffer : Buffer}
    (ht : (c.createPool
      { name := name, device := device, bufferSize := size, bufferCount := 1 }).run s = t)
    (hout : t.outcome = .ok pool) (hallocate : Pool.allocate.run pool = ⟨[], left, .ok buffer⟩) :
    (c.singleBuffer name device size).run s = ⟨t.events, t.state, .ok (buffer, left)⟩ := by
  subst ht
  have hmap : (Pool.allocate.mapError CreateError.firstAllocation).run pool
      = ⟨[], left, .ok buffer⟩ := by
    show Trace.mk (Pool.allocate.run pool).events (Pool.allocate.run pool).state
      ((Pool.allocate.run pool).outcome.mapError _) = _
    rw [hallocate]
    rfl
  rw [Context.singleBuffer, Action.run_bind, hout]
  simp only
  show Trace.mk (_ ++ (Action.within _ _ _ _).events) (Action.within _ _ _ _).state
    (Action.within _ _ _ _).outcome = _
  rw [Action.within, hmap]
  simp only [List.append_nil]

/-- A new pool has a buffer to give, so a pool of one buffer is never given back while it is made.
-/
theorem run_singleBuffer_of_made {c : Context σ} {name : String} {device : Device} {size : UInt64}
    {s : σ} {t : Trace σ CreateError Pool} {pool : Pool}
    (ht : (c.createPool
      { name := name, device := device, bufferSize := size, bufferCount := 1 }).run s = t)
    (hout : t.outcome = .ok pool) :
    ∃ buffer rest, (c.singleBuffer name device size).run s =
      ⟨t.events, t.state, .ok (buffer, { pool with free := rest })⟩ := by
  obtain ⟨buffer, rest, hallocate⟩ := Custody.allocate_of_create (ht ▸ hout)
  exact ⟨buffer, rest, run_singleBuffer_of_allocate ht hout hallocate⟩

/-- Making a pool of one buffer is making a pool. -/
theorem singleBuffer_opens (c : Context σ) (name : String) (device : Device) (size : UInt64)
    (s : σ) (hleases : Separate leases)
    (hunaliased : Unaliased leases ((c.singleBuffer name device size).run s).events) :
    ((c.singleBuffer name device size).run s).Opens leases Prod.snd ∧
      ∀ value, ((c.singleBuffer name device size).run s).outcome = .ok value →
        value.2.Intact := by
  let config : Config :=
    { name := name, device := device, bufferSize := size, bufferCount := 1 }
  have hcreate := Pool.create_opens c.platform c.mapper config s hleases
  have hsingle : c.singleBuffer name device size = Pool.create c.platform c.mapper config >>=
    fun pool => Action.within pool (Pool.allocate.mapError .firstAllocation)
      (Pool.release c.platform) := rfl
  cases hout : ((Pool.create c.platform c.mapper config).run s).outcome with
  | ok pool =>
    obtain ⟨buffer, rest, hrun⟩ := run_singleBuffer_of_made rfl hout
    rw [hrun] at hunaliased ⊢
    have hopens := hcreate hunaliased
    rw [Trace.Opens, hout] at hopens
    refine ⟨hopens, fun value hvalue => ?_⟩
    rw [← Outcome.ok.inj hvalue]
    exact (Pool.create_eq_ok hout).1.with_free rest
  | error cause =>
    rw [hsingle, Action.run_bind, hout] at hunaliased ⊢
    rw [Trace.Opens, hout] at hcreate
    exact ⟨hcreate hunaliased, fun _ hvalue => by cases hvalue⟩
  | panic cause =>
    rw [hsingle, Action.run_bind, hout] at hunaliased ⊢
    rw [Trace.Opens, hout] at hcreate
    exact ⟨hcreate hunaliased, fun _ hvalue => by cases hvalue⟩
  | abort =>
    rw [hsingle, Action.run_bind, hout] at hunaliased ⊢
    rw [Trace.Opens, hout] at hcreate
    exact ⟨hcreate hunaliased, fun _ hvalue => by cases hvalue⟩

/-- **One turn**: whatever the owner does, the books are balanced again if it is done in order, and
it is done in order if nothing has a fault. -/
theorem turn_settles (h : o.Balanced leases l) (deed : Deed)
    (hunaliased : Unaliased leases (o.turn deed).events) : (o.turn deed).Settles leases l := by
  cases deed with
  | setMapper mapper => exact h.settles_of_quiet (List.forall_mem_nil _) h.intact rfl rfl
  | clearMapper => exact h.settles_of_quiet (List.forall_mem_nil _) h.intact rfl rfl
  | create config =>
    refine h.keep_settles ?_ hunaliased fun pool hpool => (Pool.create_eq_ok hpool).1
    exact Pool.create_opens o.context.platform o.context.mapper config o.state h.separate hunaliased
  | single name device size =>
    obtain ⟨hopens, hintact⟩ := singleBuffer_opens o.context name device size o.state h.separate
      hunaliased
    exact h.keep_settles hopens hunaliased hintact
  | allocate index => exact h.work_settles index Pool.run_allocate_frame
  | giveBack index va =>
    refine h.work_settles index fun pool => ?_
    obtain ⟨free, answer, hrun⟩ := pool.run_giveBack_frame va
    exact ⟨[], free, _, hrun, List.forall_mem_nil _⟩
  | giveBackSingle index buffer =>
    exact h.part_settles index fun pool hpool => Pool.giveBackSingle_closes _ hpool buffer o.state
  | destroy index =>
    exact h.part_settles index fun pool hpool => Pool.release_closes _ hpool o.state

/-- **All turns**: what the owner does is done in order if and only if no turn has a fault, save for
one in which the process aborts. -/
theorem Balanced.exists_run_iff (h : o.Balanced leases l) (deeds : List Deed)
    (hunaliased : Unaliased leases (journal (o.turns deeds))) :
    (∃ l', Ledger.Run l (journal (o.turns deeds)) l') ↔
      ∀ turn ∈ o.turns deeds, turn.aborted = false → Faultless turn.events := by
  -- on the deeds, with the books that the turns before have left
  induction deeds generalizing o leases l with
  | nil => exact ⟨fun _ => List.forall_mem_nil _, fun _ => ⟨l, rfl⟩⟩
  | cons deed rest ih =>
    rw [turns] at hunaliased ⊢
    cases haborted : (o.turn deed).aborted with
    | true =>
      -- this is the last turn, and nothing is said about its faults
      rw [haborted, if_pos rfl] at hunaliased
      rw [if_pos rfl]
      have hjournal : journal [o.turn deed] = (o.turn deed).events := List.flatMap_singleton ..
      rw [hjournal] at hunaliased ⊢
      have hsettles := turn_settles h deed hunaliased
      refine ⟨fun _ => List.forall_mem_singleton.mpr fun halive => ?_,
        fun _ => hsettles.exists_run (Or.inl haborted)⟩
      exact absurd (halive.symm.trans haborted) Bool.false_ne_true
    | false =>
      rw [haborted, if_neg Bool.false_ne_true] at hunaliased
      rw [if_neg Bool.false_ne_true]
      have hjournal : journal (o.turn deed :: (o.turn deed).owner.turns rest)
        = (o.turn deed).events ++ journal ((o.turn deed).owner.turns rest) := List.flatMap_cons ..
      rw [hjournal] at hunaliased ⊢
      obtain ⟨hfirst, hrest⟩ := unaliased_append.mp hunaliased
      have hsettles := turn_settles h deed hfirst
      -- the books are balanced after the first turn, for whichever way it was read
      constructor
      · rintro ⟨l', hrun⟩
        obtain ⟨next, hnext, hrun⟩ := Ledger.run_append.mp hrun
        obtain ⟨hfaultless, hbalanced⟩ := hsettles.balanced haborted next hnext
        exact List.forall_mem_cons.mpr
          ⟨fun _ => hfaultless, (ih hbalanced hrest).mp ⟨l', hrun⟩⟩
      · intro hall
        obtain ⟨hthis, hothers⟩ := List.forall_mem_cons.mp hall
        obtain ⟨next, hnext⟩ := hsettles.exists_run (Or.inr (hthis haborted))
        obtain ⟨-, hbalanced⟩ := hsettles.balanced haborted next hnext
        obtain ⟨l', hrun⟩ := (ih hbalanced hrest).mpr hothers
        exact ⟨l', Ledger.run_append.mpr ⟨next, hnext, hrun⟩⟩

/-- **Owners**: whatever the owner of a context does with it, on whatever platform, huge pages are
given back only when no device can reach them if and only if no turn has a fault, save for one in
which the process aborts. -/
theorem orderly_iff_faultless (context : Context σ) (state : σ) (deeds : List Deed)
    (hunaliased : Unaliased [] (journal (Owner.turns ⟨context, state, []⟩ deeds))) :
    Orderly (journal (Owner.turns ⟨context, state, []⟩ deeds)) ↔
      ∀ turn ∈ Owner.turns ⟨context, state, []⟩ deeds,
        turn.aborted = false → Faultless turn.events :=
  (Balanced.new context state).exists_run_iff deeds hunaliased

/-- A mapper refuses the second of the pages of a pool.  The first one is hidden, and the pages are
given back; the next attempts succeed. -/
theorem orderly_after_refused_page :
    let script : Script := { mappers := [{ distance := 4096, refusedMaps := [2] }] }
    let deeds : List Deed :=
      [.setMapper 0, .create ⟨"rx", {}, 1048576, 3, 64⟩, .create ⟨"rx", {}, 1048576, 3, 64⟩,
        .single "tx" {} 64, .clearMapper, .allocate 1, .destroy 1, .destroy 0]
    Unaliased [] (journal (Owner.turns ⟨⟨script.platform, none⟩, script.start, []⟩ deeds)) ∧
      Orderly (journal (Owner.turns ⟨⟨script.platform, none⟩, script.start, []⟩ deeds)) := by
  intro script deeds
  have hunaliased :
      Unaliased [] (journal (Owner.turns ⟨⟨script.platform, none⟩, script.start, []⟩ deeds)) := by
    decide +kernel
  have hfaultless : ∀ turn ∈ Owner.turns ⟨⟨script.platform, none⟩, script.start, []⟩ deeds,
      turn.aborted = false → Faultless turn.events := by
    decide +kernel
  exact ⟨hunaliased, (orderly_iff_faultless _ _ _ hunaliased).mpr hfaultless⟩

/-- A pool of one page is made and destroyed.  If its mapper refuses to unmap the page, or has
mapped it where there is no room for it, then a device can still reach the page when it is given
back. -/
theorem not_orderly_of_refused_or_overflowing :
    let turns : MapperScript → List (Turn ScriptState) := fun mapper =>
      Owner.turns ⟨⟨Script.platform { mappers := [mapper] }, some 0⟩,
        Script.start { mappers := [mapper] }, []⟩ [.create ⟨"rx", {}, 64, 1, 64⟩, .destroy 0]
    (Unaliased [] (journal (turns { refusedUnmaps := [1] })) ∧
      ¬ Orderly (journal (turns { refusedUnmaps := [1] }))) ∧
    Unaliased [] (journal (turns { answers := [18446744073709547520] })) ∧
      ¬ Orderly (journal (turns { answers := [18446744073709547520] })) := by
  intro turns
  have hfaulty : (¬ ∀ turn ∈ turns { refusedUnmaps := [1] },
        turn.aborted = false → Faultless turn.events) ∧
      ¬ ∀ turn ∈ turns { answers := [18446744073709547520] },
        turn.aborted = false → Faultless turn.events := by
    decide +kernel
  have hunaliased : Unaliased [] (journal (turns { refusedUnmaps := [1] })) ∧
      Unaliased [] (journal (turns { answers := [18446744073709547520] })) := by
    decide +kernel
  refine ⟨⟨hunaliased.1, fun horderly => hfaulty.1 ?_⟩, hunaliased.2, fun horderly => hfaulty.2 ?_⟩
  · exact ((Balanced.new _ _).exists_run_iff _ hunaliased.1).mp horderly
  · exact ((Balanced.new _ _).exists_run_iff _ hunaliased.2).mp horderly

end Owner

end HugePool
