import HugePool.Platform.Scripted
import HugePool.Proofs.Pool.Creation
import Mathlib.Data.List.Pairwise

/-!
# Virtual and bus addresses of a pool

A pool translates in both directions by the first page that has the address.  Its pages have no
virtual address in common, so it does not matter which of them comes first
(`Pool.Intact.toBus?_eq_some_iff`), and what is found for a bus address is one of the places where
the device sees that address (`Pool.Intact.toBus?_of_toVirtual?`).

In the other direction nothing keeps a mapper from answering overlapping bus addresses.  The page
that is found for a bus address need not be the one that the process asked about, and it always is
if and only if no two pages overlap on the bus (`Pool.Intact.round_trip_iff`).
-/

namespace HugePool

/-! ### First matches -/

/-- If all matches give the same answer, it does not matter which of them comes first. -/
theorem findSome?_eq_some_iff_of_agree {α β : Type} {l : List α} {f : α → Option β}
    (hagree : ∀ a ∈ l, ∀ b ∈ l, ∀ x y, f a = some x → f b = some y → x = y) {x : β} :
    l.findSome? f = some x ↔ ∃ a ∈ l, f a = some x := by
  constructor
  · exact List.exists_of_findSome?_eq_some
  · rintro ⟨a, ha, hx⟩
    have hsome : (l.findSome? f).isSome := List.findSome?_isSome_iff.mpr ⟨a, ha, by simp [hx]⟩
    obtain ⟨y, hy⟩ := Option.isSome_iff_exists.mp hsome
    obtain ⟨b, hb, hby⟩ := List.exists_of_findSome?_eq_some hy
    rw [hy, hagree b hb a ha y x hby hx]

/-- Of spans that have nothing in common, only one has a given place. -/
theorem eq_of_mem_spans {α : Type} {l : List α} {span : α → Set Nat}
    (h : l.Pairwise fun a b => Disjoint (span a) (span b)) {a b : α} (ha : a ∈ l) (hb : b ∈ l)
    {place : Nat} (hplace : place ∈ span a) (hplace' : place ∈ span b) : a = b := by
  by_contra hne
  have : Std.Symm fun a b : α => Disjoint (span a) (span b) := ⟨fun _ _ hab => hab.symm⟩
  exact Set.disjoint_left.mp (h.forall ha hb hne) hplace hplace'

/-! ### One page -/

namespace PageRecord

/-- The places of a page as the process sees them. -/
def virtSpan (r : PageRecord) : Set Nat :=
  Set.Ico r.virt.toNat (r.virt.toNat + hugePageSize.toNat)

/-- The places of a page as the device sees them. -/
def busSpan (r : PageRecord) : Set Nat :=
  Set.Ico r.bus.toNat (r.bus.toNat + hugePageSize.toNat)

theorem toBus?_isSome_iff {r : PageRecord} {va : VirtAddr} :
    (r.toBus? va).isSome ↔ va.toNat ∈ r.virtSpan := by
  rw [Option.isSome_iff_exists]
  constructor
  · rintro ⟨bus, hbus⟩
    exact (toBus?_eq_some_iff.mp hbus).1
  · exact r.exists_toBus?

/-- Within one page, either direction undoes the other. -/
theorem toVirtual?_eq_some_iff_toBus? {r : PageRecord} {va : VirtAddr} {bus : BusAddr} :
    r.toVirtual? bus = some va ↔ r.toBus? va = some bus := by
  simp only [toVirtual?_eq_some_iff, toBus?_eq_some_iff, Range.mem_iff, virtRange, busRange]
  omega

theorem mem_spans_of_toBus? {r : PageRecord} {va : VirtAddr} {bus : BusAddr}
    (h : r.toBus? va = some bus) : va.toNat ∈ r.virtSpan ∧ bus.toNat ∈ r.busSpan :=
  ⟨(toBus?_eq_some_iff.mp h).1, (toVirtual?_eq_some_iff.mp (toVirtual?_eq_some_iff_toBus?.mpr h)).1⟩

theorem exists_toBus?_of_mem_busSpan {r : PageRecord} {bus : BusAddr} (h : bus.toNat ∈ r.busSpan) :
    ∃ va, r.toBus? va = some bus := by
  obtain ⟨hle, hlt⟩ := h
  have hfits := r.virt_fits
  have hva : (UInt64.ofNat (bus.toNat + r.virt.toNat - r.bus.toNat)).toNat
      = bus.toNat + r.virt.toNat - r.bus.toNat := UInt64.toNat_ofNat_of_lt' (by omega)
  refine ⟨⟨UInt64.ofNat (bus.toNat + r.virt.toNat - r.bus.toNat)⟩,
    toVirtual?_eq_some_iff_toBus?.mp (toVirtual?_eq_some_iff.mpr ⟨⟨hle, hlt⟩, ?_⟩)⟩
  show _ = (UInt64.ofNat _).toNat + _
  rw [hva]
  omega

end PageRecord

/-! ### The pages of an intact pool -/

namespace Pool.Intact

variable {pool : Pool} (h : pool.Intact)

include h

theorem length_hugePages : pool.hugePages.length = pool.geometry.hugePages.toNat := by
  have hlen := congrArg List.length h.pages
  rwa [List.length_map, List.length_map, List.length_range] at hlen

/-- The region starts with the first page. -/
theorem head_hugePages : pool.hugePages.head?.map (·.virt) = some pool.region.mapping := by
  have hhead := congrArg List.head? h.pages
  rw [List.head?_map, List.head?_map, List.head?_range, if_neg h.sound.hugePages_pos.ne'] at hhead
  simp only [Option.map_some, Nat.zero_mul, Nat.add_zero, Option.map_eq_some_iff] at hhead ⊢
  obtain ⟨first, hfirst, hvirt⟩ := hhead
  exact ⟨first, hfirst, Address.toNat_inj.mp hvirt⟩

theorem virtSpan_disjoint :
    pool.hugePages.Pairwise fun r r' => Disjoint r.virtSpan r'.virtSpan := by
  have hspaced : (pool.hugePages.map (·.virt.toNat)).Pairwise
      fun a b => a + hugePageSize.toNat ≤ b := by
    rw [h.pages, List.pairwise_map]
    refine List.pairwise_lt_range.imp fun {i j} hij => ?_
    have := Nat.mul_le_mul_right hugePageSize.toNat (Nat.succ_le_of_lt hij)
    rw [Nat.succ_mul] at this
    omega
  refine (List.pairwise_map.mp hspaced).imp fun {r r'} hle => Set.disjoint_left.mpr ?_
  intro place hplace hplace'
  simp only [PageRecord.virtSpan, Set.mem_Ico] at hplace hplace'
  omega

theorem exists_virt_iff {start : Nat} :
    (∃ r ∈ pool.hugePages, r.virt.toNat = start) ↔
      ∃ k < pool.geometry.hugePages.toNat,
        pool.region.mapping.toNat + k * hugePageSize.toNat = start := by
  have hmem := congrArg (start ∈ ·) h.pages
  simpa only [List.mem_map, List.mem_range, eq_iff_iff] using hmem

theorem dvd_virt {r : PageRecord} (hr : r ∈ pool.hugePages) :
    hugePageSize.toNat ∣ r.virt.toNat := by
  obtain ⟨k, -, hstart⟩ := h.exists_virt_iff.mp ⟨r, hr, rfl⟩
  rw [← hstart]
  exact Nat.dvd_add h.aligned (Nat.dvd_mul_left _ _)

/-- The pages fill the region. -/
theorem exists_page_iff {place : Nat} :
    (∃ r ∈ pool.hugePages, place ∈ r.virtSpan) ↔
      place ∈ pool.geometry.mappedSpan pool.region.mapping.toNat := by
  simp only [PageRecord.virtSpan, Geometry.mappedSpan, Set.mem_Ico]
  constructor
  · rintro ⟨r, hr, hle, hlt⟩
    obtain ⟨k, hk, hstart⟩ := h.exists_virt_iff.mp ⟨r, hr, rfl⟩
    have hlast : (k + 1) * hugePageSize.toNat
        ≤ pool.geometry.hugePages.toNat * hugePageSize.toNat := Nat.mul_le_mul_right _ hk
    rw [Nat.succ_mul] at hlast
    omega
  · rintro ⟨hle, hlt⟩
    -- the page is told by the distance from the start
    have hpos : 0 < hugePageSize.toNat := by decide
    have hdiv := Nat.div_add_mod' (place - pool.region.mapping.toNat) hugePageSize.toNat
    have hmod := Nat.mod_lt (place - pool.region.mapping.toNat) hpos
    obtain ⟨r, hr, hstart⟩ := h.exists_virt_iff.mpr
      ⟨(place - pool.region.mapping.toNat) / hugePageSize.toNat,
        Nat.div_lt_of_lt_mul (by rw [Nat.mul_comm]; omega), rfl⟩
    exact ⟨r, hr, by omega, by omega⟩

/-! ### Both directions -/

/-- The device sees an address at the place that any of the pages tells. -/
theorem toBus?_eq_some_iff {va : VirtAddr} {bus : BusAddr} :
    pool.toBus? va = some bus ↔ ∃ r ∈ pool.hugePages, r.toBus? va = some bus := by
  refine findSome?_eq_some_iff_of_agree fun r hr r' hr' bus bus' hbus hbus' => ?_
  have hsame : r = r' := eq_of_mem_spans h.virtSpan_disjoint hr hr'
    (PageRecord.mem_spans_of_toBus? hbus).1 (PageRecord.mem_spans_of_toBus? hbus').1
  rw [hsame] at hbus
  exact Option.some.inj (hbus.symm.trans hbus')

theorem toBus?_isSome_iff {va : VirtAddr} :
    (pool.toBus? va).isSome ↔
      va.toNat ∈ pool.geometry.mappedSpan pool.region.mapping.toNat := by
  rw [toBus?, PageTable.toBus?, List.findSome?_isSome_iff, ← h.exists_page_iff]
  simp only [PageRecord.toBus?_isSome_iff]
  rfl

/-- A virtual address that is found for a bus address is seen there by the device. -/
theorem toBus?_of_toVirtual? {va : VirtAddr} {bus : BusAddr}
    (hva : pool.toVirtual? bus = some va) : pool.toBus? va = some bus := by
  obtain ⟨r, hr, hfound⟩ := List.exists_of_findSome?_eq_some hva
  exact h.toBus?_eq_some_iff.mpr ⟨r, hr, PageRecord.toVirtual?_eq_some_iff_toBus?.mp hfound⟩

/-- Without overlaps on the bus, going there and back leads to where one started. -/
theorem toVirtual?_of_toBus? (hbuses : pool.hugePages.Pairwise fun r r' =>
      Disjoint r.busSpan r'.busSpan) {va : VirtAddr} {bus : BusAddr}
    (hbus : pool.toBus? va = some bus) : pool.toVirtual? bus = some va := by
  obtain ⟨r, hr, hfound⟩ := h.toBus?_eq_some_iff.mp hbus
  refine (findSome?_eq_some_iff_of_agree fun r hr r' hr' va va' hva hva' => ?_).mpr
    ⟨r, hr, PageRecord.toVirtual?_eq_some_iff_toBus?.mpr hfound⟩
  have hsame : r = r' := eq_of_mem_spans hbuses hr hr'
    (PageRecord.mem_spans_of_toBus? (PageRecord.toVirtual?_eq_some_iff_toBus?.mp hva)).2
    (PageRecord.mem_spans_of_toBus? (PageRecord.toVirtual?_eq_some_iff_toBus?.mp hva')).2
  rw [hsame] at hva
  exact Option.some.inj (hva.symm.trans hva')

/-- Two pages that overlap on the bus are told apart by the process only. -/
theorem round_trip_iff :
    (∀ va : VirtAddr, va.toNat ∈ pool.geometry.mappedSpan pool.region.mapping.toNat →
      (pool.toBus? va).bind pool.toVirtual? = some va) ↔
    pool.hugePages.Pairwise fun r r' => Disjoint r.busSpan r'.busSpan := by
  constructor
  · intro hround
    refine h.virtSpan_disjoint.imp_of_mem fun {r r'} hr hr' hvirt => Set.disjoint_left.mpr ?_
    intro place hplace hplace'
    -- both pages have an address that the device sees at `place`, and only one of them comes back
    have hlt : place < UInt64.size := lt_trans hplace.2 r.bus_fits
    have hnat : (⟨UInt64.ofNat place⟩ : BusAddr).toNat = place := UInt64.toNat_ofNat_of_lt' hlt
    have hback : ∀ r ∈ pool.hugePages, place ∈ r.busSpan → ∃ va : VirtAddr,
        va.toNat ∈ r.virtSpan ∧ pool.toVirtual? ⟨UInt64.ofNat place⟩ = some va := by
      intro r hr hplace
      rw [← hnat] at hplace
      obtain ⟨va, hva⟩ := PageRecord.exists_toBus?_of_mem_busSpan hplace
      have hmem := (PageRecord.mem_spans_of_toBus? hva).1
      have hgo := hround va (h.exists_page_iff.mp ⟨r, hr, hmem⟩)
      rw [h.toBus?_eq_some_iff.mpr ⟨r, hr, hva⟩, Option.bind_some] at hgo
      exact ⟨va, hmem, hgo⟩
    obtain ⟨va, hva, hfound⟩ := hback r hr hplace
    obtain ⟨va', hva', hfound'⟩ := hback r' hr' hplace'
    rw [Option.some.inj (hfound.symm.trans hfound')] at hva
    exact Set.disjoint_left.mp hvirt hva hva'
  · intro hbuses va hva
    obtain ⟨bus, hbus⟩ := Option.isSome_iff_exists.mp (h.toBus?_isSome_iff.mpr hva)
    rw [hbus, Option.bind_some]
    exact h.toVirtual?_of_toBus? hbuses hbus

end Pool.Intact

/-- **Translation**: a pool that was made has a bus address for every address of its huge pages and
for no other.  A virtual address that it finds for a bus address always has that bus address, and
it finds back from every address if and only if no two pages overlap on the bus. -/
theorem Pool.translation_inverse {σ : Type} {context : Context σ} {config : Config} {s : σ}
    {pool : Pool} (hcreate : ((context.createPool config).run s).outcome = .ok pool) :
    ∃ first, pool.hugePages.head? = some first ∧
      let inside : Set Nat := Set.Ico first.virt.toNat
        (first.virt.toNat + pool.hugePages.length * hugePageSize.toNat)
      (∀ va : VirtAddr, (pool.toBus? va).isSome ↔ va.toNat ∈ inside) ∧
      (∀ (bus : BusAddr) (va : VirtAddr), pool.toVirtual? bus = some va →
        pool.toBus? va = some bus) ∧
      ((∀ va : VirtAddr, va.toNat ∈ inside → (pool.toBus? va).bind pool.toVirtual? = some va) ↔
        pool.hugePages.Pairwise fun r r' => Disjoint r.busSpan r'.busSpan) := by
  have hintact := (Pool.create_eq_ok hcreate).1
  obtain ⟨first, hfirst, hvirt⟩ := Option.map_eq_some_iff.mp hintact.head_hugePages
  refine ⟨first, hfirst, ?_⟩
  intro inside
  have hinside : inside = pool.geometry.mappedSpan pool.region.mapping.toNat := by
    rw [Geometry.mappedSpan, ← hvirt, ← hintact.length_hugePages]
  rw [hinside]
  exact ⟨fun va => hintact.toBus?_isSome_iff, fun bus va => hintact.toBus?_of_toVirtual?,
    hintact.round_trip_iff⟩

/-- A mapper puts the second of two pages 4 KiB after the first one, so that not every address is
found back. -/
theorem Pool.translation_inverse_overlapping :
    ∃ pool, ((Context.createPool ⟨Script.platform { mappers := [{ answers := [4096, 8192] }] },
        some 0⟩ ⟨"rx", {}, 1048576, 2, 64⟩).run
          (Script.start { mappers := [{ answers := [4096, 8192] }] })).outcome = .ok pool ∧
      ¬ ∀ va : VirtAddr, va.toNat ∈ Set.Ico 4294967296 (4294967296 + 2 * hugePageSize.toNat) →
        (pool.toBus? va).bind pool.toVirtual? = some va := by
  obtain ⟨pool, r, r', hcreate, hrecords, hvirt, hbus, hbus'⟩ : ∃ pool r r',
      ((Context.createPool ⟨Script.platform { mappers := [{ answers := [4096, 8192] }] },
        some 0⟩ ⟨"rx", {}, 1048576, 2, 64⟩).run
          (Script.start { mappers := [{ answers := [4096, 8192] }] })).outcome = .ok pool ∧
      pool.hugePages = [r, r'] ∧ r.virt.toNat = 4294967296 ∧ r.bus.toNat = 4096 ∧
      r'.bus.toNat = 8192 := ⟨_, _, _, rfl, rfl, rfl, rfl, rfl⟩
  obtain ⟨first, hfirst, -, -, hround⟩ := Pool.translation_inverse hcreate
  rw [hrecords] at hfirst hround
  cases Option.some.inj hfirst
  rw [hvirt, List.length_cons, List.length_singleton] at hround
  refine ⟨pool, hcreate, fun hall => ?_⟩
  -- place 8192 of the bus belongs to both pages
  have hdisjoint := (List.pairwise_cons.mp (hround.mp hall)).1 r' List.mem_cons_self
  have hplace : 8192 ∈ r.busSpan := by
    rw [PageRecord.busSpan, hbus]
    exact ⟨by decide, by decide⟩
  have hplace' : 8192 ∈ r'.busSpan := by
    rw [PageRecord.busSpan, hbus']
    exact ⟨by decide, by decide⟩
  exact Set.disjoint_left.mp hdisjoint hplace hplace'

end HugePool
