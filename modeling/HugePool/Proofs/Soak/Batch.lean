import HugePool.Proofs.Soak.Visits

/-!
# Making and destroying a batch

A batch has a bay for each of its shapes.  The request for the shape without buffers is refused, as
it should be, and its bay stays empty; for any other shape a pool is made (`Bay.MadeFor`).

* `run_makeBays_eq_mk_iff`, `run_dropBays_eq_mk_iff`: a batch that was made was made bay by bay, and
  one that was destroyed was destroyed pool by pool.
* `AmpleHeap.makeBays_yields`, `AmpleHeap.dropBays_yields`: with an alignment that is accepted, the
  whole batch is made on a heap with room for it, and once it was destroyed nothing is out.
* `outcome_makeBays_of_not_accepted`: with any other alignment, the first pool is refused.
-/

namespace HugePool.Soak

/-- The check tells that a pool without buffers was refused. -/
def emptyRecord (i : Nat) : LogRecord :=
  ⟨.warn, "dma_pool_check", poolName i ++ ": empty pool rejected as expected"⟩

/-- A bay is made for the shape at a place of the batch. -/
inductive Bay.MadeFor {σ : Type} (c : Context σ) (o : Options) :
    (Shape × Nat) × Bay → σ → List Event → σ → Prop where
  | empty {shape : Shape} {i : Nat} {s s' : σ} {events : List Event} (hcount : shape.count = 0)
    (hrefused : (c.createPool (o.request i shape)).run s = ⟨events, s', .error .zeroBuffers⟩) :
    MadeFor c o ((shape, i), ⟨none, []⟩) s (events ++ [.log (emptyRecord i)]) s'
  | pool {shape : Shape} {i : Nat} {s s' : σ} {events : List Event} {made : Pool}
    (hcount : shape.count ≠ 0) (hall : made.geometry.bufferCount = shape.count)
    (hmade : (c.createPool (o.request i shape)).run s = ⟨events, s', .ok made⟩) :
    MadeFor c o ((shape, i), ⟨some made, []⟩) s events s'

/-- A pool is destroyed. -/
def Destroyed {σ : Type} (c : Context σ) (pool : Pool) (s : σ) (events : List Event) (s' : σ) :
    Prop := (Pool.release c.platform pool).run s = ⟨events, s', .ok ()⟩

/-- The pools of bays. -/
def poolsOf (bays : List Bay) : List Pool := bays.filterMap (·.pool)

theorem poolsOf_append (first second : List Bay) :
    poolsOf (first ++ second) = poolsOf first ++ poolsOf second := List.filterMap_append ..

theorem poolsOf_reverse (bays : List Bay) : poolsOf bays.reverse = (poolsOf bays).reverse :=
  List.filterMap_reverse ..

/-! ### Batches that were made or destroyed -/

section

variable {σ : Type} {c : Context σ} {o : Options} {i : Nat} {shape : Shape} {s s' : σ}
  {events : List Event}

/-- A pool has the buffers that were asked for, which are some. -/
theorem bufferCount_of_request {made : Pool}
    (h : ((c.createPool (o.request i shape)).run s).outcome = .ok made) :
    shape.count ≠ 0 ∧ made.geometry.bufferCount = shape.count := by
  have hgeometry := (Pool.create_eq_ok h).2.1
  rw [Config.geometry] at hgeometry
  split_ifs at hgeometry
  obtain ⟨hlegal, -⟩ := Geometry.plan_of_compute hgeometry
  refine ⟨?_, (Geometry.compute_eq_ok hgeometry).1⟩
  rintro hzero
  have hpos : 0 < shape.count.toNat := hlegal.count_pos
  rw [hzero] at hpos
  exact absurd hpos (by decide)

theorem run_makeBay_eq_mk_iff {bay : Bay} :
    (makeBay c o i shape).run s = ⟨events, s', .ok bay⟩ ↔
      Bay.MadeFor c o ((shape, i), bay) s events s' := by
  constructor
  · intro h
    change makeBay c o i shape s = _ at h
    rcases hrun : (c.createPool (o.request i shape)).run s with ⟨before, left, outcome⟩
    have hcreate := hrun
    rw [Options.request] at hcreate
    simp only [makeBay, hcreate] at h
    cases outcome with
    | ok made =>
      obtain ⟨rfl, rfl, hbay⟩ := (Trace.mk.injEq ..).mp h
      obtain rfl := Outcome.ok.inj hbay
      obtain ⟨hcount, hall⟩ := bufferCount_of_request (congrArg Trace.outcome hrun)
      exact .pool hcount hall hrun
    | error cause =>
      cases cause with
      | zeroBuffers =>
        dsimp only at h
        split_ifs at h with hcount
        · obtain ⟨rfl, rfl, hbay⟩ := (Trace.mk.injEq ..).mp h
          obtain rfl := Outcome.ok.inj hbay
          exact .empty hcount hrun
        · cases h
      | _ => cases h
    | panic => cases h
    | abort => cases h
  · intro h
    show makeBay c o i shape s = _
    cases h with
    | empty hcount hrefused =>
      rw [Options.request] at hrefused
      simp only [makeBay, hrefused, if_pos hcount]
      rfl
    | pool hcount hall hmade =>
      rw [Options.request] at hmade
      simp only [makeBay, hmade]
      rfl

/-- The bays of a batch were made one after the other, each for its shape. -/
theorem run_makeBays_eq_mk_iff {made bays : List Bay} {rest : List Shape} :
    (makeBays c o made rest).run s = ⟨events, s', .ok bays⟩ ↔ ∃ more, bays = made ++ more ∧
      more.length = rest.length ∧
      Chain (Bay.MadeFor c o) ((rest.zipIdx made.length).zip more) s events s' := by
  -- on the shapes that are left, after the bays that were made before
  induction rest generalizing made s events with
  | nil =>
    refine Action.run_ofOutcome_eq_mk_iff.trans ⟨?_, ?_⟩
    · rintro ⟨rfl, rfl, hbays⟩
      obtain rfl := Outcome.ok.inj hbays
      exact ⟨[], (List.append_nil _).symm, rfl, .nil s'⟩
    · rintro ⟨more, rfl, hlength, hchain⟩
      obtain rfl := List.eq_nil_of_length_eq_zero hlength
      obtain ⟨rfl, rfl⟩ := Chain.nil_iff.mp hchain
      exact ⟨rfl, rfl, by rw [List.append_nil]⟩
  | cons shape rest ih =>
    refine Action.run_bind_eq_mk_iff.trans ⟨?_, ?_⟩
    · rintro ⟨first, middle, bay, later, hbay, hrest, rfl⟩
      obtain ⟨more, rfl, hlength, hchain⟩ := ih.mp hrest
      rw [List.length_append, List.length_singleton] at hchain
      refine ⟨bay :: more, List.append_assoc .., congrArg Nat.succ hlength, ?_⟩
      exact .cons (run_makeBay_eq_mk_iff.mp (Action.run_onFailure_eq_mk_iff.mp hbay)) hchain
    · rintro ⟨more, rfl, hlength, hchain⟩
      obtain ⟨bay, more, rfl⟩ := List.exists_cons_of_length_eq_add_one hlength
      obtain ⟨first, middle, later, hbay, hrest, rfl⟩ := Chain.cons_iff.mp hchain
      refine ⟨first, middle, bay, later,
        Action.run_onFailure_eq_mk_iff.mpr (run_makeBay_eq_mk_iff.mpr hbay), ih.mpr ?_, rfl⟩
      refine ⟨more, (List.append_assoc made [bay] more).symm, Nat.succ.inj hlength, ?_⟩
      rw [List.length_append, List.length_singleton]
      exact hrest

/-- A whole batch. -/
theorem run_makeBays_batch_eq_mk_iff {bays : List Bay} :
    (makeBays c o [] batch).run s = ⟨events, s', .ok bays⟩ ↔ bays.length = batch.length ∧
      Chain (Bay.MadeFor c o) (batch.zipIdx.zip bays) s events s' := by
  refine run_makeBays_eq_mk_iff.trans ⟨?_, ?_⟩
  · rintro ⟨more, hbays, hmade⟩
    rw [List.nil_append] at hbays
    exact hbays ▸ hmade
  · exact fun hmade => ⟨bays, rfl, hmade⟩

/-- What is true of every bay that is made is true of all bays of a batch. -/
theorem forall_mem_of_madeFor {p : Bay → Prop}
    (hbay : ∀ place bay s events s', Bay.MadeFor c o (place, bay) s events s' → p bay)
    {bays : List Bay} (hwhole : bays.length = batch.length)
    (h : Chain (Bay.MadeFor c o) (batch.zipIdx.zip bays) s events s') : ∀ bay ∈ bays, p bay := by
  have hall : ∀ item ∈ batch.zipIdx.zip bays, p item.2 :=
    h.forall_mem fun item s events s' hmade => hbay item.1 item.2 s events s' hmade
  have hlength : bays.length ≤ batch.zipIdx.length := by rw [List.length_zipIdx, hwhole]
  rw [← List.map_snd_zip hlength]
  exact List.forall_mem_map.mpr hall

/-- The pools of bays are destroyed one after the other. -/
theorem run_dropBays_eq_mk_iff {bays : List Bay} :
    (dropBays c bays).run s = ⟨events, s', .ok ()⟩ ↔
      Chain (Destroyed c) (poolsOf bays) s events s' := Action.run_cleanAll_eq_mk_iff

end

/-! ### Alignments that are not accepted -/

section

variable {σ : Type} {c : Context σ} {o : Options} {i : Nat} {shape : Shape} {s : σ}

/-- A pool that is refused for another reason than its count fails the check. -/
theorem outcome_makeBay_of_refused {cause : CreateError} (hcause : cause ≠ .zeroBuffers)
    (h : ((c.createPool (o.request i shape)).run s).outcome = .error cause) :
    ((makeBay c o i shape).run s).outcome = .error (.create (poolName i) cause) := by
  simp only [Action.run, Options.request] at h
  simp only [makeBay, Action.run, h]
  cases cause with
  | zeroBuffers => exact absurd rfl hcause
  | _ => rfl

/-- The first pool of a batch is refused for its alignment. -/
theorem outcome_makeBays_of_not_accepted (c : Context σ) (h : ¬ o.Accepted) (s : σ) :
    ∃ cause, ((makeBays c o [] batch).run s).outcome = .error cause := by
  obtain ⟨cause, hcompute, hcause⟩ := Options.compute_of_not_accepted h ⟨1, 1074240⟩
  have hgeometry := (o.geometry_request ⟨1, 1074240⟩ (i := 0) (by decide)).trans hcompute
  have hrefused := Pool.run_create_of_refused c.platform c.mapper s hgeometry
  have hbay := outcome_makeBay_of_refused (c := c) hcause (congrArg Trace.outcome hrefused)
  exact ⟨_, Action.outcome_bind_of_error (Action.outcome_onFailure_of_error hbay rfl) _⟩

end

/-! ### Batches on a heap -/

namespace AmpleHeap

variable {σ : Type} {o : Options} (heap : AmpleHeap σ o) {more : List Nat} {leases : List Lease}
  {s : σ}

/-- A bay takes the piece of its pool, if it is to have one. -/
theorem makeBay_yields (h : o.Accepted) {shape : Shape} (hshape : shape ∈ batch) {i : Nat}
    (hi : i < batch.length)
    (hroom : heap.Room ((shape.compute? o.alignment).toList.map pieceLen ++ more) leases s) :
    ∃ bay s', (makeBay heap.context o i shape).Yields s bay s' ∧
      heap.Room more ((poolsOf [bay]).map Pool.lease ++ leases) s' := by
  by_cases hcount : shape.count = 0
  · have hempty := h.compute_of_empty hshape hcount
    have hrefused := Pool.run_create_of_refused heap.platform none s
      ((o.geometry_request shape hi).trans hempty)
    rw [Shape.compute?, hempty] at hroom
    exact ⟨⟨none, []⟩, s, ⟨_, run_makeBay_eq_mk_iff.mpr (.empty hcount hrefused)⟩, hroom⟩
  · obtain ⟨g, -, hg, -, -⟩ := h.exists_compute? hshape hcount
    rw [hg] at hroom
    have hgeometry :=
      (o.geometry_request shape hi).trans (Shape.compute?_eq_some_iff.mp hg)
    obtain ⟨pool, s', ⟨events, hmade⟩, hroom'⟩ := heap.create_yields hgeometry
      (fun bytes hbytes => List.mem_flatMap.mpr ⟨g, o.mem_geometries hshape hg, hbytes⟩) hroom
    have hall := (bufferCount_of_request (congrArg Trace.outcome hmade)).2
    exact ⟨⟨some pool, []⟩, s', ⟨_, run_makeBay_eq_mk_iff.mpr (.pool hcount hall hmade)⟩, hroom'⟩

/-- The pieces that are out are those of the pools made so far, the last one first. -/
theorem makeBays_yields (h : o.Accepted) (rest : List Shape) (hrest : ∀ shape ∈ rest, shape ∈ batch)
    (made : List Bay) (hlength : made.length + rest.length ≤ batch.length)
    (hroom : heap.Room ((o.geometries rest).map pieceLen)
      ((poolsOf made).map Pool.lease).reverse s) :
    ∃ bays s', (makeBays heap.context o made rest).Yields s bays s' ∧
      heap.Room [] ((poolsOf bays).map Pool.lease).reverse s' := by
  -- on the shapes that are left, after the bays that were made before
  induction rest generalizing made s with
  | nil => exact ⟨made, s, Action.Yields.pure made s, hroom⟩
  | cons shape rest ih =>
    obtain ⟨hshape, hrest⟩ := List.forall_mem_cons.mp hrest
    rw [List.length_cons] at hlength
    rw [o.geometries_cons, List.map_append] at hroom
    obtain ⟨bay, s', hbay, hroom'⟩ :=
      heap.makeBay_yields h hshape (i := made.length) (by omega) hroom
    have hleases : (poolsOf [bay]).map Pool.lease ++ ((poolsOf made).map Pool.lease).reverse
        = ((poolsOf (made ++ [bay])).map Pool.lease).reverse := by
      rw [poolsOf_append, List.map_append, List.reverse_append]
      rcases bay with ⟨_ | pool, buffers⟩ <;> rfl
    rw [hleases] at hroom'
    obtain ⟨bays, s'', hbays, hroom''⟩ := ih hrest (made ++ [bay])
      (by rw [List.length_append, List.length_singleton]; omega) hroom'
    exact ⟨bays, s'', (hbay.onFailure _).bind hbays, hroom''⟩

theorem releaseAll_yields (pools : List Pool) (hmapper : ∀ pool ∈ pools, pool.table.mapper = none)
    (hroom : heap.Room more (pools.map Pool.lease) s) :
    ∃ s', (Action.cleanAll (Pool.release heap.platform) pools).Yields s () s' ∧
      heap.Room more [] s' := by
  induction pools generalizing s with
  | nil => exact ⟨s, Action.Yields.ofOutcome () s, hroom⟩
  | cons pool rest ih =>
    obtain ⟨hpool, hrest⟩ := List.forall_mem_cons.mp hmapper
    obtain ⟨s', hrelease, hroom'⟩ := heap.release_yields hpool hroom
    obtain ⟨s'', hall, hroom''⟩ := ih hrest hroom'
    exact ⟨s'', hrelease.andThen hall, hroom''⟩

/-- The pools are destroyed in reverse, which is the order in which their pieces are taken back. -/
theorem dropBays_yields {bays : List Bay}
    (hmapper : ∀ pool ∈ poolsOf bays, pool.table.mapper = none)
    (hroom : heap.Room more ((poolsOf bays).map Pool.lease).reverse s) :
    ∃ s', (dropBays heap.context bays.reverse).Yields s () s' ∧ heap.Room more [] s' := by
  show ∃ s', (Action.cleanAll _ (poolsOf bays.reverse)).Yields s () s' ∧ _
  rw [poolsOf_reverse]
  refine heap.releaseAll_yields _ (fun pool hpool => hmapper pool (List.mem_reverse.mp hpool)) ?_
  rwa [List.map_reverse]

end AmpleHeap

end HugePool.Soak
