import HugePool.Proofs.PageMap.Lookup

/-!
# Entries that are written and read back

An entry of the page map is a word of fields.  A `PageEntry.Call` writes one of them, and is
rejected when the frame number has more than 55 bits; the entry is then left as it was.

* `PageEntry.testBit_after`: what a call does to each bit of the word.  A bit belongs to one field,
  or, if it is one of the four that are not used, to none.
* `PageEntry.read_afterAll`: if each call sets what is read to the value that it writes, or leaves
  it alone, then what is read after any number of calls is the value that was written last.
* `PageFile.number_of_holds`: a word that lies in a file byte by byte is what is read there.
* `PageEntry.written_and_read`: each field of an entry after any calls, and that the page map reads
  the entry back from a file.
-/

namespace HugePool

/-! ### Bits of entries -/

namespace PageFlag

theorem toNat_mask (flag : PageFlag) : ((1 : UInt64) <<< flag.bit).toNat = 2 ^ flag.bit.toNat := by
  cases flag <;> rfl

/-- The flags are above the frame number, on either side of the bits that are not used. -/
theorem bit_bounds (flag : PageFlag) :
    55 ≤ flag.bit.toNat ∧ (flag.bit.toNat < 57 ∨ 60 < flag.bit.toNat) := by
  cases flag <;> decide

/-- Each flag has a bit of its own. -/
theorem toNat_bit_inj {flag other : PageFlag} :
    flag.bit.toNat = other.bit.toNat ↔ flag = other := by
  cases flag <;> cases other <;> decide

end PageFlag

namespace PageEntry

/-! ### Writing one field -/

theorem testBit_withFlag (e : PageEntry) (flag : PageFlag) (value : Bool) (i : Nat) :
    (e.withFlag flag value).bits.toNat.testBit i =
      if i = flag.bit.toNat then value else e.bits.toNat.testBit i := by
  cases value with
  | true =>
    simp only [withFlag, if_true, UInt64.toNat_or, Nat.testBit_or, PageFlag.toNat_mask,
      Nat.testBit_two_pow]
    by_cases hi : i = flag.bit.toNat
    · simp [hi]
    · simp [hi, Ne.symm hi]
  | false =>
    simp only [withFlag, Bool.false_eq_true, if_false, UInt64.toNat_and, Nat.testBit_and,
      Word.testBit_not, PageFlag.toNat_mask, Nat.testBit_two_pow]
    by_cases hi : i = flag.bit.toNat
    · simp [hi]
    · by_cases h64 : i < 64
      · simp [hi, h64, Ne.symm hi]
      · simp [hi, Word.testBit_of_le e.bits (Nat.not_lt.mp h64)]

theorem withFrame?_eq_none_iff {e : PageEntry} {frame : UInt64} :
    e.withFrame? frame = none ↔ 2 ^ 55 ≤ frame.toNat := by
  have hmask : frame ≤ frameMask ↔ frame.toNat < 2 ^ 55 :=
    UInt64.le_iff_toNat_le.trans Nat.lt_succ_iff.symm
  rw [withFrame?, ← Nat.not_lt, ← hmask]
  split_ifs with hle <;> simp [hle]

theorem lt_of_withFrame? {e made : PageEntry} {frame : UInt64}
    (h : e.withFrame? frame = some made) : frame.toNat < 2 ^ 55 := by
  rw [← Nat.not_le, ← withFrame?_eq_none_iff (e := e), h]
  exact Option.some_ne_none made

/-- A frame number that was written has no bits past its field. -/
theorem testBit_frame_of_withFrame? {e made : PageEntry} {frame : UInt64}
    (h : e.withFrame? frame = some made) {i : Nat} (hi : ¬ i < 55) :
    frame.toNat.testBit i = false :=
  Nat.testBit_lt_two_pow (Nat.lt_of_lt_of_le (lt_of_withFrame? h)
    (Nat.pow_le_pow_right (by decide) (Nat.not_lt.mp hi)))

theorem testBit_of_withFrame? {e made : PageEntry} {frame : UInt64}
    (h : e.withFrame? frame = some made) (i : Nat) :
    made.bits.toNat.testBit i =
      if i < 55 then frame.toNat.testBit i else e.bits.toNat.testBit i := by
  have hclear : ¬ i < 55 → frame.toNat.testBit i = false := testBit_frame_of_withFrame? h
  have hmask : frameMask.toNat = 2 ^ 55 - 1 := rfl
  rw [withFrame?, Option.ite_none_right_eq_some] at h
  obtain ⟨-, h⟩ := h
  obtain rfl := Option.some.inj h
  simp only [UInt64.toNat_or, UInt64.toNat_and, Nat.testBit_or, Nat.testBit_and, Word.testBit_not,
    hmask, Nat.testBit_two_pow_sub_one]
  by_cases hi : i < 55
  · simp [hi]
  · rw [hclear hi]
    by_cases h64 : i < 64
    · simp [hi, h64]
    · simp [hi, Word.testBit_of_le e.bits (Nat.not_lt.mp h64)]

theorem testBit_frame (e : PageEntry) (i : Nat) :
    e.frame.toNat.testBit i = (decide (i < 55) && e.bits.toNat.testBit i) := by
  rw [toNat_frame, Nat.testBit_mod_two_pow]

theorem frame_withFlag (e : PageEntry) (flag : PageFlag) (value : Bool) :
    (e.withFlag flag value).frame = e.frame := by
  apply UInt64.toNat_inj.mp
  apply Nat.eq_of_testBit_eq
  intro i
  rw [testBit_frame, testBit_frame, testBit_withFlag]
  by_cases hi : i < 55
  · have hne : i ≠ flag.bit.toNat := fun hflag => Nat.not_lt.mpr flag.bit_bounds.1 (hflag ▸ hi)
    rw [if_neg hne]
  · simp [hi]

theorem frame_of_withFrame? {e made : PageEntry} {frame : UInt64}
    (h : e.withFrame? frame = some made) : made.frame = frame := by
  apply UInt64.toNat_inj.mp
  apply Nat.eq_of_testBit_eq
  intro i
  rw [testBit_frame, testBit_of_withFrame? h]
  by_cases hi : i < 55
  · simp [hi]
  · simp [hi, testBit_frame_of_withFrame? h hi]

/-! ### Calls -/

/-- A call that writes a field.  Whether it makes a new entry or changes the one that is there is
all the same for what is there afterwards. -/
inductive Call where
  | writeFlag (flag : PageFlag) (value : Bool)
  /-- A frame number of more than 55 bits is refused if the caller has it checked, and is a panic if
  not. -/
  | writeFrame (frame : UInt64) (checked : Bool)
  deriving DecidableEq, Repr

/-- How a call ends: with the entry that it makes, with a refusal or with a panic. -/
def Call.ending (e : PageEntry) : Call → Outcome Unit PageEntry
  | .writeFlag flag value => .ok (e.withFlag flag value)
  | .writeFrame frame checked =>
    if checked then .ofOption (e.withFrame? frame) () else e.withFrame frame

/-- The entry that is there after a call: the one that it made, or else the one that was there
before. -/
def after (e : PageEntry) (c : Call) : PageEntry :=
  match c.ending e with
  | .ok made => made
  | _ => e

/-- The entry that is there after some calls. -/
def afterAll (e : PageEntry) (calls : List Call) : PageEntry := calls.foldl after e

/-- The value that a call writes to a flag, if it does. -/
def Call.flag? (flag : PageFlag) : Call → Option Bool
  | .writeFlag other value => if flag = other then some value else none
  | .writeFrame _ _ => none

/-- The frame number that a call writes, if it writes one that is not too large. -/
def Call.frame? : Call → Option UInt64
  | .writeFlag _ _ => none
  | .writeFrame frame _ => if frame.toNat < 2 ^ 55 then some frame else none

/-- What a call writes to a bit of the word, if it does. -/
def Call.bit? (i : Nat) : Call → Option Bool
  | .writeFlag flag value => if i = flag.bit.toNat then some value else none
  | .writeFrame frame checked =>
    if i < 55 then (Call.writeFrame frame checked).frame?.map (·.toNat.testBit i) else none

theorem Call.frame?_of_some {e made : PageEntry} {frame : UInt64}
    (h : e.withFrame? frame = some made) (checked : Bool) :
    (Call.writeFrame frame checked).frame? = some frame := if_pos (lt_of_withFrame? h)

theorem Call.frame?_of_none {e : PageEntry} {frame : UInt64} (h : e.withFrame? frame = none)
    (checked : Bool) : (Call.writeFrame frame checked).frame? = none :=
  if_neg (Nat.not_lt.mpr (withFrame?_eq_none_iff.mp h))

theorem ending_of_some {e made : PageEntry} {frame : UInt64} (h : e.withFrame? frame = some made)
    (checked : Bool) : Call.ending e (.writeFrame frame checked) = .ok made := by
  cases checked <;> simp [Call.ending, withFrame, h, Outcome.ofOption]

theorem ending_of_none {e : PageEntry} {frame : UInt64} (h : e.withFrame? frame = none)
    (checked : Bool) : Call.ending e (.writeFrame frame checked)
      = if checked then .error () else .panic .frameOutOfBounds := by
  cases checked <;> simp [Call.ending, withFrame, h, Outcome.ofOption]

/-- A call that is rejected leaves the whole word as it was. -/
theorem after_writeFrame (e : PageEntry) (frame : UInt64) (checked : Bool) :
    e.after (.writeFrame frame checked) = (e.withFrame? frame).getD e := by
  cases h : e.withFrame? frame with
  | some made => rw [after, ending_of_some h, Option.getD_some]
  | none =>
    rw [after, ending_of_none h]
    cases checked <;> rfl

/-- A call writes the bits of its field and leaves the others alone. -/
theorem testBit_after (e : PageEntry) (c : Call) (i : Nat) :
    (e.after c).bits.toNat.testBit i = (c.bit? i).getD (e.bits.toNat.testBit i) := by
  cases c with
  | writeFlag flag value =>
    show (e.withFlag flag value).bits.toNat.testBit i = _
    rw [testBit_withFlag, Call.bit?]
    split_ifs <;> rfl
  | writeFrame frame checked =>
    rw [after_writeFrame, Call.bit?]
    cases h : e.withFrame? frame with
    | some made =>
      rw [Option.getD_some, testBit_of_withFrame? h, Call.frame?_of_some h]
      split_ifs <;> rfl
    | none =>
      rw [Option.getD_none, Call.frame?_of_none h]
      split_ifs <;> rfl

/-! ### Reading what was written -/

theorem has_after (e : PageEntry) (c : Call) (flag : PageFlag) :
    (e.after c).has flag = (c.flag? flag).getD (e.has flag) := by
  have hbit : c.bit? flag.bit.toNat = c.flag? flag := by
    cases c with
    | writeFlag other value => simp only [Call.bit?, Call.flag?, PageFlag.toNat_bit_inj]
    | writeFrame frame checked =>
      exact if_neg (Nat.not_lt.mpr flag.bit_bounds.1)
  rw [has_eq_testBit, testBit_after, hbit, has_eq_testBit]

theorem frame_after (e : PageEntry) (c : Call) : (e.after c).frame = c.frame?.getD e.frame := by
  cases c with
  | writeFlag flag value => exact e.frame_withFlag flag value
  | writeFrame frame checked =>
    rw [after_writeFrame]
    cases h : e.withFrame? frame with
    | some made =>
      rw [Call.frame?_of_some h, Option.getD_some, Option.getD_some, frame_of_withFrame? h]
    | none => rw [Call.frame?_of_none h, Option.getD_none, Option.getD_none]

/-- The bits that are not used belong to no field. -/
theorem testBit_after_of_unused (e : PageEntry) (c : Call) {i : Nat} (hge : 57 ≤ i)
    (hle : i ≤ 60) : (e.after c).bits.toNat.testBit i = e.bits.toNat.testBit i := by
  have hbit : c.bit? i = none := by
    cases c with
    | writeFlag flag value =>
      have hbounds := flag.bit_bounds
      exact if_neg (by omega)
    | writeFrame frame checked => exact if_neg (by omega)
  rw [testBit_after, hbit]
  rfl

/-- What is read after some calls is what was written last, or what was there before if nothing
was. -/
theorem read_afterAll {α : Type} (read : PageEntry → α) (written? : Call → Option α)
    (hafter : ∀ e c, read (e.after c) = (written? c).getD (read e)) (e : PageEntry)
    (calls : List Call) :
    read (e.afterAll calls) = (calls.filterMap written?).getLastD (read e) := by
  induction calls generalizing e with
  | nil => rfl
  | cons c calls ih =>
    show read ((e.after c).afterAll calls) = _
    rw [ih, hafter, List.filterMap_cons]
    cases written? c with
    | none => rfl
    | some value => rw [List.getLastD_cons, Option.getD_some]

end PageEntry

/-! ### Words in files -/

namespace PageFile

/-- A word lies at a place of the file, least significant byte first. -/
def Holds (file : PageFile) (place : Nat) (w : UInt64) : Prop :=
  ∀ i < 8, (file.byteAt (place + i)).toNat = w.toNat / 256 ^ i % 256

theorem number_of_holds {file : PageFile} {place : Nat} {w : UInt64} (h : file.Holds place w) :
    file.number place = w.toNat := by
  have hbytes : ∀ i < 8, file.byteAt (place + i) = Word.byte w i := by
    intro i hi
    apply UInt8.toNat_inj.mp
    rw [h i hi, Word.byte, UInt8.toNat_ofNat', Nat.shiftRight_eq_div_pow, Nat.pow_mul]
  rw [number, ← Word.toNat_ofBytes, Word.ofBytes_congr hbytes, Word.ofBytes_byte]

end PageFile

/-- **Round trip**: whatever calls wrote to an entry, each flag and the frame number read as the
value that was written to them last, or as before if none was, and the bits that are not used are as
before.  A frame number is rejected if and only if it has more than 55 bits, and then the word stays
as it is.

From a file in which the entry of a page lies, whatever else lies there, the page map reads that
entry for each address of the page, for pages of any size.  All bytes of the entry have to be in the
file; no file has `2 ^ 63` of them, so that the place of an entry is always one that can be asked
for. -/
theorem PageEntry.written_and_read (e : PageEntry) (calls : List PageEntry.Call) :
    let written := e.afterAll calls
    (∀ flag, written.has flag = (calls.filterMap (·.flag? flag)).getLastD (e.has flag)) ∧
    written.frame = (calls.filterMap (·.frame?)).getLastD e.frame ∧
    (∀ i, 57 ≤ i → i ≤ 60 → written.bits.toNat.testBit i = e.bits.toNat.testBit i) ∧
    (∀ frame checked, if frame.toNat < 2 ^ 55 then
        Call.ending written (.writeFrame frame checked)
          = .ok (written.after (.writeFrame frame checked))
      else
        Call.ending written (.writeFrame frame checked)
            = (if checked then .error () else .panic .frameOutOfBounds) ∧
          written.after (.writeFrame frame checked) = written) ∧
    ∀ (m : PageMap) (q : Nat), 8 * q + 8 ≤ m.file.size → m.file.Holds (8 * q) written.bits →
      ∀ va : VirtAddr, va.toNat / m.pageSize.toNat = q → m.entry va = .ok written := by
  intro written
  refine ⟨fun flag => ?_, ?_, fun i hge hle => ?_, fun frame checked => ?_, ?_⟩
  · exact read_afterAll (·.has flag) (·.flag? flag) (fun e c => e.has_after c flag) e calls
  · exact read_afterAll (·.frame) (·.frame?) frame_after e calls
  · have hread := read_afterAll (·.bits.toNat.testBit i) (fun _ => none)
      (fun e c => e.testBit_after_of_unused c hge hle) e calls
    rwa [List.filterMap_none] at hread
  · rw [after_writeFrame]
    cases h : written.withFrame? frame with
    | some made =>
      rw [if_pos (lt_of_withFrame? h)]
      exact ending_of_some h checked
    | none =>
      rw [if_neg (Nat.not_lt.mpr (withFrame?_eq_none_iff.mp h))]
      exact ⟨ending_of_none h checked, rfl⟩
  · rintro m q hread hholds va rfl
    exact PageMap.entry_eq_ok_iff.mpr ⟨hread, (PageFile.number_of_holds hholds).symm⟩

/-- The second word of a file, written to with the unused bits set.  The frame number that does not
fit and the mark that is taken back leave nothing behind. -/
theorem PageEntry.written_and_read_second_page :
    let file : PageFile := .regular ((Memory.zero.storeWord 0 0xFFFFFFFFFFFFFFFF).storeWord 8
      0x9E00000000001234) 16
    (⟨"pagemap", file, 4096, by decide⟩ : PageMap).entry ⟨0x1ABC⟩ = .ok ⟨0x9E00000000001234⟩ ∧
    Call.ending ⟨0x9E00000000001234⟩ (.writeFrame 0x80000000000000 true) = .error () ∧
    (⟨0x9E00000000001234⟩ : PageEntry).bits.toNat.testBit 57 = true := by
  intro file
  let start : PageEntry := ⟨0x1E00000000000000⟩
  let calls : List Call := [.writeFlag .softDirty true, .writeFrame 0x1234 true,
    .writeFrame 0x80000000000000 false, .writeFlag .present true, .writeFlag .softDirty false]
  have hwritten : start.afterAll calls = ⟨0x9E00000000001234⟩ := by decide
  obtain ⟨-, -, hunused, hrejected, hentry⟩ := written_and_read start calls
  rw [hwritten] at hunused hrejected hentry
  have hlarge := hrejected 0x80000000000000 true
  rw [if_neg (by decide)] at hlarge
  refine ⟨hentry ⟨"pagemap", file, 4096, by decide⟩ 1 (by decide) ?_ ⟨0x1ABC⟩ (by decide),
    hlarge.1, ?_⟩
  · intro i hi
    decide +revert
  · exact (hunused 57 (by decide) (by decide)).trans (by decide)

end HugePool
