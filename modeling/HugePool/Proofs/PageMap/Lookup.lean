import HugePool.Platform.Reserved
import HugePool.Context
import HugePool.Proofs.Word.Rounding
import Mathlib.Algebra.BigOperators.Fin

/-!
# What the page map answers

A virtual address is translated by the word that the page map holds for its page.  Here the answer
is told in numbers: `PageFile.number` is the word at a place of the file, `PageMap.Backs` says that
such a word puts a page into a frame.

* `PageFile.wordAt_eq_ok_iff`: a word is read if and only if all of its bytes are there.
* `PageMap.entry_eq_ok_iff`: hence what the entry of a page is, if the page has one.
* `PageMap.translate_eq_ok_iff`: an address has a physical address if and only if its page is
  backed, and keeps its distance from the start of the page.  A frame whose start is an address ends
  at one, because a power of two divides the number of words.
* `PageMap.translate_exact`: the answer in all cases.
-/

namespace HugePool

open Finset

/-! ### Words of a file -/

theorem Word.sum_bytes_lt (f : Nat → UInt8) (n : Nat) :
    ∑ i ∈ range n, (f i).toNat * 256 ^ i < 256 ^ n := by
  induction n with
  | zero => exact Nat.one_pos
  | succ n ih =>
    have hle : (f n).toNat * 256 ^ n ≤ 255 * 256 ^ n :=
      Nat.mul_le_mul_right _ (Nat.le_of_lt_succ (f n).toNat_lt)
    rw [sum_range_succ, Nat.pow_succ]
    omega

/-- A word is the sum of its bytes, each times a power of 256. -/
theorem Word.toNat_ofBytes (f : Nat → UInt8) :
    (Word.ofBytes f).toNat = ∑ i ∈ range 8, (f i).toNat * 256 ^ i := by
  have hfold : (List.range 8).foldr (fun i rest => (f i).toNat + 256 * rest) 0
      = ∑ i ∈ range 8, (f i).toNat * 256 ^ i := by
    simp only [List.range, List.range.loop, List.foldr, sum_range_succ, sum_range_zero]
    omega
  rw [Word.ofBytes, hfold]
  exact UInt64.toNat_ofNat_of_lt' (Word.sum_bytes_lt f 8)

namespace PageFile

/-- How many bytes there are to read: none where there is no regular file, and in a regular file
fewer than would reach the end that no file reaches. -/
def size : PageFile → Nat
  | .regular _ length => min length (endLimit - 1)
  | _ => 0

/-- The byte at a place of the file. -/
def byteAt : PageFile → Nat → UInt8
  | .regular contents _, place => contents.byteAt place
  | _, _ => 0

/-- The word at a place of the file, least significant byte first. -/
def number (file : PageFile) (place : Nat) : Nat :=
  ∑ i ∈ range 8, (file.byteAt (place + i)).toNat * 256 ^ i

theorem exists_number_eq (file : PageFile) (place : Nat) :
    ∃ bits : UInt64, bits.toNat = file.number place :=
  ⟨Word.ofBytes fun i => file.byteAt (place + i), Word.toNat_ofBytes _⟩

theorem size_lt (file : PageFile) : file.size < endLimit := by
  have hlimit : 0 < endLimit := by decide
  cases file with
  | closed cause => exact hlimit
  | directory => exact hlimit
  | regular contents length =>
    rw [size]
    omega

/-- A word is read if and only if all of its bytes are there. -/
theorem wordAt_eq_ok_iff {file : PageFile} {place : Nat} {bits : UInt64} :
    file.wordAt place = .ok bits ↔ place + 8 ≤ file.size ∧ bits.toNat = file.number place := by
  have hlt := file.size_lt
  cases file with
  | closed cause => simp [wordAt, size]
  | directory =>
    simp only [wordAt, size]
    split <;> simp
  | regular contents length =>
    have hword : (contents.word place).toNat = number (.regular contents length) place :=
      Word.toNat_ofBytes _
    rw [← hword, UInt64.toNat_inj, wordAt, size]
    rw [size] at hlt
    split_ifs with hend hshort
    · exact ⟨fun h => (nomatch h), fun h => by omega⟩
    · exact ⟨fun h => (nomatch h), fun h => by omega⟩
    · rw [Except.ok.injEq, eq_comm]
      exact (and_iff_right (by omega)).symm

/-- A file that has something to read can be opened. -/
theorem openFault?_of_size_pos {file : PageFile} (h : 0 < file.size) : file.openFault? = none := by
  cases file with
  | closed cause => exact absurd h (Nat.lt_irrefl 0)
  | directory => rfl
  | regular contents length => rfl

end PageFile

/-! ### Entries -/

namespace PageEntry

theorem has_eq_testBit (e : PageEntry) (flag : PageFlag) :
    e.has flag = e.bits.toNat.testBit flag.bit.toNat := by
  have hbit : flag.bit.toNat % 64 = flag.bit.toNat := by cases flag <;> rfl
  rw [Bool.eq_iff_iff, has, beq_iff_eq, ← UInt64.toNat_inj, UInt64.toNat_and,
    UInt64.toNat_shiftRight, hbit, Nat.testBit_eq_decide_div_mod_eq, decide_eq_true_iff,
    Nat.shiftRight_eq_div_pow]
  show _ &&& 1 = 1 ↔ _
  rw [Nat.and_one_is_mod]

theorem toNat_frame (e : PageEntry) : e.frame.toNat = e.bits.toNat % 2 ^ 55 := by
  rw [frame, UInt64.toNat_and]
  exact Nat.and_two_pow_sub_one_eq_mod _ 55

end PageEntry

/-! ### Frames -/

theorem Address.ofFrame_eq_ok_iff {ε : Type} {frame offset pageSize : UInt64} {pa : PhysAddr} :
    (Address.ofFrame frame offset pageSize : Outcome ε PhysAddr) = .ok pa ↔
      offset.toNat < pageSize.toNat ∧ pa.toNat = frame.toNat * pageSize.toNat + offset.toNat := by
  simp only [Address.ofFrame, Outcome.bind_eq_ok_iff, Outcome.require_eq_ok_iff, Word.mul, Word.add,
    Outcome.orPanic_eq_ok_iff, Word.mul?_eq_some_iff, Word.add?_eq_some_iff, Outcome.pure_eq,
    Outcome.ok.injEq, UInt64.lt_iff_toNat_lt, exists_and_left]
  constructor
  · rintro ⟨hoffset, -, start, hstart, sum, hsum, rfl⟩
    exact ⟨hoffset, hstart ▸ hsum⟩
  · rintro ⟨hoffset, hpa⟩
    have hlt := pa.toNat_lt
    have hstart : (UInt64.ofNat (frame.toNat * pageSize.toNat)).toNat
        = frame.toNat * pageSize.toNat := UInt64.toNat_ofNat_of_lt' (by omega)
    refine ⟨hoffset, (), _, hstart, pa.word, ?_, rfl⟩
    rw [hstart]
    exact hpa

/-- No address of a frame is past the last one if its start is not. -/
theorem PageMap.exists_ofFrame (m : PageMap) {ε : Type} {frame : UInt64}
    (hfits : frame.toNat * m.pageSize.toNat < UInt64.size) (w : UInt64) :
    ∃ pa,
      (Address.ofFrame frame (w &&& (m.pageSize - 1)) m.pageSize : Outcome ε PhysAddr) = .ok pa ∧
      pa.toNat = frame.toNat * m.pageSize.toNat + w.toNat % m.pageSize.toNat := by
  have hoffset := m.pageSize_pow.toNat_and_sub_one w
  have hmod := Nat.mod_lt w.toNat m.pageSize_pow.pos
  have hroom := m.pageSize_pow.add_le_size_of_dvd (Nat.dvd_mul_left _ frame.toNat) hfits
  have hpa : (UInt64.ofNat (frame.toNat * m.pageSize.toNat + w.toNat % m.pageSize.toNat)).toNat
      = frame.toNat * m.pageSize.toNat + w.toNat % m.pageSize.toNat :=
    UInt64.toNat_ofNat_of_lt' (by omega)
  refine ⟨⟨_⟩, Address.ofFrame_eq_ok_iff.mpr ⟨?_, ?_⟩, hpa⟩
  · rwa [hoffset]
  · rw [hoffset]
    exact hpa

/-! ### Bus addresses -/

section

variable {σ : Type}

/-- A resolver answers the bus with physical addresses.  One that has a way of its own to bus
addresses has to agree with the way that it would have without one. -/
def Platform.BusIsPhysical (p : Platform σ) : Prop :=
  ∀ translate, p.translateToBus? = some translate →
    ∀ va s, (translate va s).1 = (p.translate va s).1.map Address.toBus

theorem Platform.busIsPhysical_of_none {p : Platform σ} (h : p.translateToBus? = none) :
    p.BusIsPhysical := by
  intro translate hsome
  rw [h] at hsome
  cases hsome

/-- The bus address that a context tells for an address is its physical address. -/
theorem Context.outcome_toBus (c : Context σ) (h : c.platform.BusIsPhysical) (va : VirtAddr)
    (s : σ) :
    ((c.toBus va).run s).outcome =
      Address.toBus <$> Outcome.ofExcept (c.platform.translate va s).1 := by
  unfold Context.toBus Platform.resolveToBus
  cases htranslate : c.platform.translateToBus? with
  | none =>
    have hresolve : ((c.platform.resolve va).run s).outcome
        = .ofExcept (c.platform.translate va s).1 := rfl
    show ((c.platform.resolve va >>= fun phys => pure phys.toBus).run s).outcome = _
    rw [Action.run_bind, hresolve]
    cases (c.platform.translate va s).1 <;> rfl
  | some translate =>
    show Outcome.ofExcept (translate va s).1 = _
    rw [h translate htranslate]
    cases (c.platform.translate va s).1 <;> rfl

end

namespace PageMap

/-! ### The entry of a page -/

/-- The number of the page that an address lies in. -/
def pageOf (m : PageMap) (va : VirtAddr) : Nat := va.toNat / m.pageSize.toNat

variable {m : PageMap} {va : VirtAddr}

theorem entry_of_far (h : UInt64.size ≤ 8 * m.pageOf va) :
    m.entry va = .error (.outOfRange va) := by
  have hplace : Word.mul? (va.word / m.pageSize) wordBytes = none := by
    rw [Word.mul?_eq_none_iff, UInt64.toNat_div, Nat.mul_comm]
    exact h
  rw [entry, hplace]

theorem exists_place (h : 8 * m.pageOf va < UInt64.size) :
    ∃ place, Word.mul? (va.word / m.pageSize) wordBytes = some place ∧
      place.toNat = 8 * m.pageOf va := by
  have hnat : (UInt64.ofNat (8 * m.pageOf va)).toNat = 8 * m.pageOf va :=
    UInt64.toNat_ofNat_of_lt' h
  refine ⟨UInt64.ofNat (8 * m.pageOf va), Word.mul?_eq_some_iff.mpr ?_, hnat⟩
  rw [hnat, UInt64.toNat_div, Nat.mul_comm]
  rfl

theorem entry_of_openFault (h : 8 * m.pageOf va < UInt64.size) {cause : SystemError}
    (hcause : m.file.openFault? = some cause) : m.entry va = .error (.unavailable cause) := by
  obtain ⟨place, hplace, -⟩ := exists_place h
  rw [entry, hplace]
  simp only [hcause]

/-- The entry of a page that has a place in a file that can be opened. -/
theorem entry_of_open (h : 8 * m.pageOf va < UInt64.size) (hopen : m.file.openFault? = none) :
    m.entry va =
      ((m.file.wordAt (8 * m.pageOf va)).mapError (.unreadable va)).map PageEntry.mk := by
  obtain ⟨place, hplace, hnat⟩ := exists_place h
  rw [entry, hplace]
  simp only [hopen, hnat]
  cases m.file.wordAt (8 * m.pageOf va) <;> rfl

theorem entry_eq_ok_iff {e : PageEntry} :
    m.entry va = .ok e ↔
      8 * m.pageOf va + 8 ≤ m.file.size ∧ e.bits.toNat = m.file.number (8 * m.pageOf va) := by
  have hlt := m.file.size_lt
  have hlimit : PageFile.endLimit < UInt64.size := by decide
  rcases Nat.lt_or_ge (8 * m.pageOf va) UInt64.size with hnear | hfar
  · cases hopen : m.file.openFault? with
    | some cause =>
      rw [entry_of_openFault hnear hopen]
      refine ⟨fun h => (nomatch h), fun h => ?_⟩
      rw [PageFile.openFault?_of_size_pos (by omega)] at hopen
      cases hopen
    | none =>
      rw [entry_of_open hnear hopen, ← PageFile.wordAt_eq_ok_iff]
      cases m.file.wordAt (8 * m.pageOf va) with
      | ok bits => simp [Except.mapError, Except.map, PageEntry.ext_iff]
      | error cause => simp [Except.mapError, Except.map]
  · rw [entry_of_far hfar]
    exact ⟨fun h => (nomatch h), fun h => by omega⟩

theorem exists_entry (hread : 8 * m.pageOf va + 8 ≤ m.file.size) :
    ∃ e, m.entry va = .ok e ∧
      e.has .present = (m.file.number (8 * m.pageOf va)).testBit 63 ∧
      e.frame.toNat = m.file.number (8 * m.pageOf va) % 2 ^ 55 := by
  obtain ⟨bits, hbits⟩ := m.file.exists_number_eq (8 * m.pageOf va)
  refine ⟨⟨bits⟩, entry_eq_ok_iff.mpr ⟨hread, hbits⟩, ?_, ?_⟩
  · rw [PageEntry.has_eq_testBit, hbits]
    rfl
  · rw [PageEntry.toNat_frame, hbits]

theorem exists_entry_error (hnear : 8 * m.pageOf va < UInt64.size)
    (hopen : m.file.openFault? = none) (hshort : m.file.size < 8 * m.pageOf va + 8) :
    ∃ cause, m.entry va = .error (.unreadable va cause) := by
  rw [entry_of_open hnear hopen]
  cases hword : m.file.wordAt (8 * m.pageOf va) with
  | ok bits =>
    have := (PageFile.wordAt_eq_ok_iff.mp hword).1
    omega
  | error cause => exact ⟨cause, rfl⟩

/-! ### The answer -/

theorem ofExcept_lookup (m : PageMap) (va : VirtAddr) : .ofExcept (m.lookup va) = m.translate va :=
  Outcome.ofExcept_toExcept _

/-- The page map puts a page into a frame: the entry of the page can be read, tells that the page is
in memory, and has the number of a frame that starts at an address and is not hidden. -/
structure Backs (m : PageMap) (page frame : Nat) : Prop where
  readable : 8 * page + 8 ≤ m.file.size
  present : (m.file.number (8 * page)).testBit 63 = true
  frame_eq : m.file.number (8 * page) % 2 ^ 55 = frame
  frame_pos : 0 < frame
  fits : frame * m.pageSize.toNat < UInt64.size

theorem translate_of_entry_error {cause : TranslateError} (h : m.entry va = .error cause) :
    m.translate va = .error cause := by
  rw [translate, h]
  rfl

theorem translate_of_entry {e : PageEntry} (h : m.entry va = .ok e) :
    m.translate va =
      if e.has .present then
        if e.frame = 0 then .error (.frameHidden va)
        else if (Word.mul? e.frame m.pageSize).isSome then
          Address.ofFrame e.frame (va.word &&& (m.pageSize - 1)) m.pageSize
        else .error (.outOfRange va)
      else .error (.notPresent va) := by
  rw [translate, h]
  rfl

section

variable (hread : 8 * m.pageOf va + 8 ≤ m.file.size)

include hread

theorem translate_of_absent
    (habsent : (m.file.number (8 * m.pageOf va)).testBit 63 = false) :
    m.translate va = .error (.notPresent va) := by
  obtain ⟨e, hentry, hpresent, -⟩ := exists_entry hread
  rw [translate_of_entry hentry, hpresent, habsent]
  rfl

theorem translate_of_hidden
    (hpresent : (m.file.number (8 * m.pageOf va)).testBit 63 = true)
    (hzero : m.file.number (8 * m.pageOf va) % 2 ^ 55 = 0) :
    m.translate va = .error (.frameHidden va) := by
  obtain ⟨e, hentry, hhas, hframe⟩ := exists_entry hread
  have hframe : e.frame = 0 := UInt64.toNat_inj.mp (hframe.trans hzero)
  rw [translate_of_entry hentry, if_pos (hhas.trans hpresent), if_pos hframe]

theorem translate_of_past
    (hpresent : (m.file.number (8 * m.pageOf va)).testBit 63 = true)
    (hpast : UInt64.size ≤
      m.file.number (8 * m.pageOf va) % 2 ^ 55 * m.pageSize.toNat) :
    m.translate va = .error (.outOfRange va) := by
  obtain ⟨e, hentry, hhas, hframe⟩ := exists_entry hread
  rw [← hframe] at hpast
  have hne : e.frame ≠ 0 := fun hzero => by
    rw [hzero, UInt64.toNat_zero, Nat.zero_mul] at hpast
    exact absurd hpast (by decide)
  rw [translate_of_entry hentry, if_pos (hhas.trans hpresent), if_neg hne, if_neg]
  rw [Word.isSome_mul?_iff]
  exact Nat.not_lt.mpr hpast

end

/-- Each address of a page that is backed has a physical address, at its distance from the start of
the frame. -/
theorem Backs.exists_translate {frame : Nat} (h : m.Backs (m.pageOf va) frame) :
    ∃ pa, m.translate va = .ok pa ∧
      pa.toNat = frame * m.pageSize.toNat + va.toNat % m.pageSize.toNat := by
  obtain ⟨e, hentry, hpresent, hframe⟩ := exists_entry h.readable
  rw [h.frame_eq] at hframe
  have hpos := h.frame_pos
  have hne : e.frame ≠ 0 := fun hzero => by
    rw [hzero] at hframe
    exact hpos.ne hframe
  have hfits := h.fits
  rw [← hframe] at hfits ⊢
  rw [translate_of_entry hentry, if_pos (hpresent.trans h.present), if_neg hne,
    if_pos (Word.isSome_mul?_iff.mpr hfits)]
  exact m.exists_ofFrame hfits va.word

/-- An address has a physical address if and only if its page is backed, and keeps its distance from
the start of the page. -/
theorem translate_eq_ok_iff {pa : PhysAddr} :
    m.translate va = .ok pa ↔ ∃ frame, m.Backs (m.pageOf va) frame ∧
      pa.toNat = frame * m.pageSize.toNat + va.toNat % m.pageSize.toNat := by
  constructor
  · intro h
    cases hentry : m.entry va with
    | error cause =>
      rw [translate_of_entry_error hentry] at h
      cases h
    | ok e =>
      obtain ⟨hread, hbits⟩ := entry_eq_ok_iff.mp hentry
      rw [translate_of_entry hentry] at h
      split_ifs at h with hpresent hzero hfits
      obtain ⟨-, hpa⟩ := Address.ofFrame_eq_ok_iff.mp h
      have hne : e.frame.toNat ≠ 0 := fun hnat => hzero (UInt64.toNat_inj.mp hnat)
      rw [m.pageSize_pow.toNat_and_sub_one] at hpa
      rw [e.has_eq_testBit, hbits] at hpresent
      have hframe := e.toNat_frame
      rw [hbits] at hframe
      exact ⟨e.frame.toNat, ⟨hread, hpresent, hframe.symm, Nat.pos_of_ne_zero hne,
        Word.isSome_mul?_iff.mp hfits⟩, hpa⟩
  · rintro ⟨frame, hbacks, hpa⟩
    obtain ⟨pa', htranslate, hpa'⟩ := hbacks.exists_translate
    rw [htranslate, Address.toNat_inj.mp (hpa.trans hpa'.symm)]

/-- **Exactness**: translating an address ends in an address or an error, whatever is found under
the name of the page map and whatever the size of its pages.  The errors are checked in the order in
which they are listed here.  Asking for the bus address gives the same number or the same error. -/
theorem translate_exact (m : PageMap) (va : VirtAddr) :
    let place := 8 * (va.toNat / m.pageSize.toNat)
    let word := m.file.number place
    let frame := word % 2 ^ 55
    (if UInt64.size ≤ place then m.translate va = .error (.outOfRange va)
    else match m.file.openFault? with
      | some cause => m.translate va = .error (.unavailable cause)
      | none =>
        if 2 ^ 63 ≤ place ∨ m.file.size < place + 8 then
          ∃ cause, m.translate va = .error (.unreadable va cause)
        else if word.testBit 63 = false then m.translate va = .error (.notPresent va)
        else if frame = 0 then m.translate va = .error (.frameHidden va)
        else if UInt64.size ≤ frame * m.pageSize.toNat then
          m.translate va = .error (.outOfRange va)
        else ∃ pa, m.translate va = .ok pa ∧
          pa.toNat = frame * m.pageSize.toNat + va.toNat % m.pageSize.toNat) ∧
    ∀ mapper,
      Address.toNat <$> ((Context.toBus ⟨ReservedPages.platform m, mapper⟩ va).run ()).outcome
        = Address.toNat <$> m.translate va := by
  intro place word frame
  refine ⟨?_, fun mapper => ?_⟩
  · by_cases hfar : UInt64.size ≤ place
    · rw [if_pos hfar]
      exact translate_of_entry_error (entry_of_far hfar)
    have hnear := Nat.not_le.mp hfar
    rw [if_neg hfar]
    cases hopen : m.file.openFault? with
    | some cause => exact translate_of_entry_error (entry_of_openFault hnear hopen)
    | none =>
      have hlt := m.file.size_lt
      have hlimit : PageFile.endLimit = 2 ^ 63 := rfl
      dsimp only
      by_cases hshort : 2 ^ 63 ≤ place ∨ m.file.size < place + 8
      · rw [if_pos hshort]
        obtain ⟨cause, herror⟩ :=
          exists_entry_error hnear hopen (show m.file.size < place + 8 by omega)
        exact ⟨cause, translate_of_entry_error herror⟩
      have hread : place + 8 ≤ m.file.size := by omega
      rw [if_neg hshort]
      by_cases habsent : word.testBit 63 = false
      · rw [if_pos habsent]
        exact translate_of_absent hread habsent
      have hpresent := Bool.eq_true_of_not_eq_false habsent
      rw [if_neg habsent]
      split_ifs with hzero hpast
      · exact translate_of_hidden hread hpresent hzero
      · exact translate_of_past hread hpresent hpast
      · exact Backs.exists_translate ⟨hread, hpresent, rfl, Nat.pos_of_ne_zero hzero,
          Nat.not_le.mp hpast⟩
  · rw [Context.outcome_toBus _ (Platform.busIsPhysical_of_none rfl)]
    show Address.toNat <$> Address.toBus <$> Outcome.ofExcept (m.lookup va) = _
    rw [ofExcept_lookup, ← comp_map]
    rfl

/-- Page 2 is in memory, in frame `0xABCDE`. -/
example : translate ⟨"pagemap", .regular (Memory.zero.storeWord 16 0x80000000000ABCDE) 24, 4096,
    by decide⟩ ⟨0x2123⟩ = .ok ⟨0xABCDE123⟩ := by decide

end PageMap

end HugePool
