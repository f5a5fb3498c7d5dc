import HugePool.Proofs.Geometry.Plan
import HugePool.Soak.Basic
import Mathlib.Algebra.Order.BigOperators.Group.List
import Mathlib.Algebra.Order.Group.Nat

/-!
# What a batch needs

Whether the pools of a batch can be made depends on the alignment alone: it has to be a power of two
of at most 4096 (`Options.Accepted`).  A batch then asks for the huge pages of each pool in one
piece (`Options.pieces`), and for working memory for two tables of each pool (`Options.tables`).

* `Options.Accepted.exists_compute?`: with an alignment that is accepted, a pool is made for every
  shape that has buffers.
* `Options.Accepted.compute_of_empty`, `Options.compute_of_not_accepted`: all else is refused.
* `Options.sum_pieces_le`: a batch takes 53 huge pages at most.  The number of pages of each pool
  grows with the alignment (`Geometry.compute_mono`), and is the same at its two ends.
-/

namespace HugePool.Soak

/-- The alignment is one that pools may ask for. -/
def Options.Accepted (o : Options) : Prop :=
  o.alignment.toNat.isPowerOfTwo ∧ o.alignment.toNat ≤ 4096

instance (o : Options) : Decidable o.Accepted := inferInstanceAs (Decidable (_ ∧ _))

/-- The request for pool number `i`. -/
def Options.request (o : Options) (i : Nat) (shape : Shape) : Config :=
  { name := poolName i, device := ⟨o.device, 0⟩, bufferSize := shape.size,
    bufferCount := shape.count, alignment := o.alignment }

/-- The geometry of the pool for a shape, if it is not refused. -/
def Shape.compute? (shape : Shape) (alignment : UInt64) : Option Geometry :=
  match Geometry.compute shape.size shape.count alignment with
  | .ok g => some g
  | _ => none

/-- The geometries of the pools for some shapes. -/
def Options.geometries (o : Options) (shapes : List Shape) : List Geometry :=
  shapes.filterMap (·.compute? o.alignment)

/-- The bytes of the huge pages of a pool. -/
def pieceLen (g : Geometry) : Nat := g.hugePages.toNat * hugePageSize.toNat

/-- The bytes of the table of the huge pages of a pool, and of the stack of its buffers. -/
def tableLens (g : Geometry) : List Nat :=
  [g.hugePages.toNat * PageRecord.bytes, g.bufferCount.toNat * FreeStack.slotBytes]

/-- The lengths of the pieces that a batch asks for, in order. -/
def Options.pieces (o : Options) : List Nat := (o.geometries batch).map pieceLen

/-- The lengths of the tables that the pools of a batch need. -/
def Options.tables (o : Options) : List Nat := (o.geometries batch).flatMap tableLens

example : (Options.pieces {}).map (· / 2097152)
    = [1, 26, 3, 8, 1, 1, 1, 1, 1, 1, 1, 1, 1, 1, 1, 1, 1, 1, 1] := by decide +kernel

/-! ### Requests that are granted -/

theorem Shape.compute?_eq_some_iff {shape : Shape} {alignment : UInt64} {g : Geometry} :
    shape.compute? alignment = some g ↔
      Geometry.compute shape.size shape.count alignment = .ok g := by
  unfold Shape.compute?
  cases Geometry.compute shape.size shape.count alignment <;> simp

theorem utf8ByteSize_poolName : ∀ i < batch.length, (poolName i).utf8ByteSize ≤ maxNameBytes := by
  decide +kernel

/-- The names of the pools are short enough. -/
theorem Options.geometry_request (o : Options) (shape : Shape) {i : Nat} (hi : i < batch.length) :
    (o.request i shape).geometry = Geometry.compute shape.size shape.count o.alignment := by
  have hname : (o.request i shape).name.utf8ByteSize ≤ maxNameBytes := utf8ByteSize_poolName i hi
  rw [Config.geometry, if_neg (Nat.not_lt.mpr hname)]
  rfl

theorem size_of_mem_batch : ∀ shape ∈ batch, shape.size ≠ 0 ∧ shape.size ≤ hugePageSize := by
  decide

/-- Between the least alignment and the greatest one, the pieces of a batch stay the same. -/
theorem pieceLen_of_ends : ∀ shape ∈ batch,
    shape.count ≠ 0 → (shape.compute? 4096).isSome ∧
      (shape.compute? 1).map pieceLen = (shape.compute? 4096).map pieceLen := by
  decide +kernel

namespace Options.Accepted

variable {o : Options} (h : o.Accepted) {shape : Shape} (hshape : shape ∈ batch)

include h hshape

/-- A shape that has buffers gets a pool, of as many huge pages as at any other alignment. -/
theorem exists_compute? (hcount : shape.count ≠ 0) :
    ∃ g g', shape.compute? o.alignment = some g ∧ shape.compute? 4096 = some g' ∧
      pieceLen g = pieceLen g' := by
  obtain ⟨hsome, hends⟩ := pieceLen_of_ends shape hshape hcount
  obtain ⟨last, hlast⟩ := Option.isSome_iff_exists.mp hsome
  have hcompute := Shape.compute?_eq_some_iff.mp hlast
  obtain ⟨hlegal, -⟩ := Geometry.plan_of_compute hcompute
  have hsize := (size_of_mem_batch shape hshape).1
  obtain ⟨g, hg, -, -, hle⟩ := Geometry.compute_mono (UInt64.le_refl _) (UInt64.le_refl _)
    (UInt64.le_iff_toNat_le.mpr h.2) hcompute
    (hlegal.of_le (UInt64.le_refl _) (UInt64.le_iff_toNat_le.mpr h.2) hsize hcount h.1)
  obtain ⟨hlegal', -⟩ := Geometry.plan_of_compute hg
  have hone : (1 : UInt64) ≤ o.alignment :=
    UInt64.le_iff_toNat_le.mpr hlegal'.alignment_isPowerOfTwo.pos
  obtain ⟨first, hfirst, -, -, hge⟩ := Geometry.compute_mono (UInt64.le_refl _) (UInt64.le_refl _)
    hone hg (hlegal'.of_le (UInt64.le_refl _) hone hsize hcount ⟨0, rfl⟩)
  rw [Shape.compute?_eq_some_iff.mpr hfirst, hlast] at hends
  have hsame : pieceLen first = pieceLen last := Option.some.inj hends
  refine ⟨g, last, Shape.compute?_eq_some_iff.mpr hg, hlast, ?_⟩
  apply Nat.le_antisymm
  · exact Nat.mul_le_mul_right _ (UInt64.le_iff_toNat_le.mp hle)
  · rw [← hsame]
    exact Nat.mul_le_mul_right _ (UInt64.le_iff_toNat_le.mp hge)

/-- A shape without buffers is refused for that. -/
theorem compute_of_empty (hcount : shape.count = 0) :
    Geometry.compute shape.size shape.count o.alignment = .error .zeroBuffers := by
  obtain ⟨hsize, hlarge⟩ := size_of_mem_batch shape hshape
  have hpow : Word.IsPowerOfTwo o.alignment := h.1
  have halign : ¬ maxAlignment < o.alignment :=
    UInt64.not_lt.mpr (UInt64.le_iff_toNat_le.mpr h.2)
  rw [Geometry.compute, if_neg (not_not.mpr hpow), if_neg halign, if_neg hsize,
    if_neg (UInt64.not_lt.mpr hlarge), if_pos hcount]

/-- What a shape takes from the pieces of a batch, in numbers. -/
theorem map_pieceLen_compute? :
    (shape.compute? o.alignment).map pieceLen = (shape.compute? 4096).map pieceLen := by
  by_cases hcount : shape.count = 0
  · have hempty := h.compute_of_empty hshape hcount
    have hlast : Options.Accepted { alignment := 4096 } := by decide
    have hempty' := hlast.compute_of_empty hshape hcount
    simp only [Shape.compute?, hempty, hempty']
  · obtain ⟨g, g', hg, hg', hsame⟩ := h.exists_compute? hshape hcount
    rw [hg, hg', Option.map_some, Option.map_some, hsame]

end Options.Accepted

/-! ### Requests that are refused -/

/-- Any other alignment is refused before anything else is looked at. -/
theorem Options.compute_of_not_accepted {o : Options} (h : ¬ o.Accepted) (shape : Shape) :
    ∃ cause, Geometry.compute shape.size shape.count o.alignment = .error cause ∧
      cause ≠ .zeroBuffers := by
  unfold Geometry.compute
  by_cases hpow : Word.IsPowerOfTwo o.alignment
  · have hlarge : maxAlignment < o.alignment :=
      UInt64.lt_iff_toNat_lt.mpr (Nat.not_le.mp fun hle => h ⟨hpow, hle⟩)
    rw [if_neg (not_not.mpr hpow), if_pos hlarge]
    exact ⟨_, rfl, by rintro ⟨⟩⟩
  · rw [if_pos hpow]
    exact ⟨_, rfl, by rintro ⟨⟩⟩

/-! ### All pieces of a batch -/

namespace Options

variable (o : Options)

theorem geometries_cons (shape : Shape) (rest : List Shape) : o.geometries (shape :: rest)
    = (shape.compute? o.alignment).toList ++ o.geometries rest := by
  rw [geometries, List.filterMap_cons]
  cases shape.compute? o.alignment <;> rfl

theorem mem_geometries {shape : Shape} (hshape : shape ∈ batch) {g : Geometry}
    (hg : shape.compute? o.alignment = some g) : g ∈ o.geometries batch :=
  List.mem_filterMap.mpr ⟨shape, hshape, hg⟩

theorem sound_of_mem_geometries {g : Geometry} (hg : g ∈ o.geometries batch) : g.Sound := by
  obtain ⟨shape, -, hshape⟩ := List.mem_filterMap.mp hg
  exact (Geometry.compute_eq_ok (Shape.compute?_eq_some_iff.mp hshape)).2.2.2

/-- Pieces are whole huge pages. -/
theorem pieces_whole : ∀ piece ∈ o.pieces, 0 < piece ∧ hugePageSize.toNat ∣ piece := by
  intro piece hpiece
  obtain ⟨g, hg, rfl⟩ := List.mem_map.mp hpiece
  have hpages := (o.sound_of_mem_geometries hg).hugePages_pos
  exact ⟨Nat.mul_pos hpages (by decide), Nat.dvd_mul_left _ _⟩

theorem pieces_eq_filterMap :
    o.pieces = batch.filterMap fun shape => (shape.compute? o.alignment).map pieceLen :=
  List.map_filterMap ..

/-- A batch needs 53 huge pages, if any. -/
theorem sum_pieces_le : o.pieces.sum ≤ 53 * hugePageSize.toNat := by
  by_cases h : o.Accepted
  · have hsame : o.pieces = Options.pieces { alignment := 4096 } := by
      rw [pieces_eq_filterMap, pieces_eq_filterMap]
      exact List.filterMap_congr fun shape hshape => h.map_pieceLen_compute? hshape
    rw [hsame]
    decide +kernel
  · have hnone : o.pieces = [] := by
      rw [pieces_eq_filterMap, List.filterMap_eq_nil_iff]
      intro shape _
      obtain ⟨cause, hcompute, -⟩ := compute_of_not_accepted h shape
      rw [Shape.compute?, hcompute]
      rfl
    rw [hnone]
    exact Nat.zero_le _

/-- No table is longer than the stack of 3200 buffers. -/
theorem tables_le : ∀ bytes ∈ o.tables, bytes ≤ 25600 := by
  intro bytes hbytes
  obtain ⟨g, hg, hmem⟩ := List.mem_flatMap.mp hbytes
  obtain ⟨shape, hshape, hgeometry⟩ := List.mem_filterMap.mp hg
  have hcount : g.bufferCount = shape.count :=
    (Geometry.compute_eq_ok (Shape.compute?_eq_some_iff.mp hgeometry)).1
  have hbuffers : ∀ shape ∈ batch, shape.count.toNat ≤ 3200 := by decide
  have hpiece := (List.le_sum_of_mem (List.mem_map_of_mem (f := pieceLen) hg)).trans
    o.sum_pieces_le
  have hpages : g.hugePages.toNat ≤ 53 := Nat.le_of_mul_le_mul_right hpiece (by decide)
  have htables : bytes = g.hugePages.toNat * 24 ∨ bytes = g.bufferCount.toNat * 8 := by
    simpa [tableLens, PageRecord.bytes, FreeStack.slotBytes] using hmem
  have hle := hbuffers shape hshape
  rw [← hcount] at hle
  omega

end Options

end HugePool.Soak
