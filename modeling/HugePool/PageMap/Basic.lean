import HugePool.Memory
import HugePool.PageMap.Entry

/-!
# Physical addresses from the page map

The page map is a file of words, one for each page of the process, at the place that the number of
the page says.  A virtual address is translated by reading the entry of its page:

* an entry whose place is not a word, or whose frame starts past the last address, translates
  outside the space of addresses;
* a file that cannot be opened or read gives the refusal of the operating system;
* a page that is not in memory and a frame number of zero, which stands for a hidden one, give no
  address either.

Translating never panics (`PageMap.settled_translate`), because a frame that starts at an address
also ends at one.
-/

namespace HugePool

/-- What is found under the name of a page map. -/
inductive PageFile where
  /-- Nothing that can be opened. -/
  | closed (cause : SystemError)
  /-- A directory, which opens but cannot be read. -/
  | directory
  /-- A file of `length` bytes. -/
  | regular (contents : Memory) (length : Nat)

namespace PageFile

/-- Nothing at all. -/
def missing : PageFile := .closed .notFound

/-- Why the file cannot be opened, if it cannot. -/
def openFault? : PageFile → Option SystemError
  | .closed cause => some cause
  | _ => none

/-- The end that no file reaches, `2 ^ 63`. -/
def endLimit : Nat := 9223372036854775808

/-- Reads the word at a place of a file.  A word that would reach the end that no file reaches is
refused before the file is looked at. -/
def wordAt (file : PageFile) (place : Nat) : Except SystemError UInt64 :=
  match file with
  | .closed cause => .error cause
  | .directory => if endLimit ≤ place + 8 then .error .invalidArgument else .error .isDirectory
  | .regular contents length =>
    if endLimit ≤ place + 8 then .error .invalidArgument
    else if length < place + 8 then .error .shortRead
    else .ok (contents.word place)

end PageFile

/-- A page map: a file of entries and the size of the pages that they tell about. -/
structure PageMap where
  path : String
  file : PageFile
  pageSize : UInt64
  pageSize_pow : Word.IsPowerOfTwo pageSize

namespace PageMap

/-- The page map in a file, for pages of a given size. -/
def ofFile {ε : Type} (path : String) (file : PageFile) (pageSize : UInt64) : Outcome ε PageMap :=
  if h : Word.IsPowerOfTwo pageSize then .ok ⟨path, file, pageSize, h⟩
  else .panic .pageSizeNotPowerOfTwo

/-- The file under which the operating system shows a process its own page map. -/
def systemPath : String := "/proc/self/pagemap"

/-- The page map of the process itself, for base pages. -/
def system (file : PageFile) : PageMap :=
  ⟨systemPath, file, PageSize.base.bytes, by decide⟩

/-- The entry of the page that an address lies in. -/
def entry (m : PageMap) (va : VirtAddr) : Except TranslateError PageEntry :=
  match Word.mul? (va.word / m.pageSize) wordBytes with
  | none => .error (.outOfRange va)
  | some place =>
    match m.file.openFault? with
    | some cause => .error (.unavailable cause)
    | none =>
      match m.file.wordAt place.toNat with
      | .ok bits => .ok ⟨bits⟩
      | .error cause => .error (.unreadable va cause)

/-- The physical address of a virtual address. -/
def translate (m : PageMap) (va : VirtAddr) : Outcome TranslateError PhysAddr := do
  let entry ← .ofExcept (m.entry va)
  if entry.has .present then
    if entry.frame = 0 then .error (.frameHidden va)
    else if (Word.mul? entry.frame m.pageSize).isSome then
      Address.ofFrame entry.frame (va.word &&& (m.pageSize - 1)) m.pageSize
    else .error (.outOfRange va)
  else .error (.notPresent va)

/-- A frame that starts at an address ends at one: no address in it is past the last one. -/
theorem settled_ofFrame {ε : Type} {frame pageSize : UInt64} (w : UInt64)
    (hp : Word.IsPowerOfTwo pageSize) (h : (Word.mul? frame pageSize).isSome) :
    (Address.ofFrame frame (w &&& (pageSize - 1)) pageSize : Outcome ε PhysAddr).Settled := by
  obtain ⟨start, hstart⟩ := Option.isSome_iff_exists.mp h
  have hlow : (w &&& (pageSize - 1)).toNat < pageSize.toNat := by
    rw [hp.toNat_and_sub_one]
    exact Nat.mod_lt _ hp.pos
  have hsum : start.toNat + (w &&& (pageSize - 1)).toNat < UInt64.size := by
    have hdvd : pageSize.toNat ∣ start.toNat := by
      rw [Word.mul?_eq_some_iff.mp hstart]
      exact Nat.dvd_mul_left _ _
    have hroom := hp.add_le_size_of_dvd hdvd start.toNat_lt_size
    omega
  cases hadd : Word.add? start (w &&& (pageSize - 1)) with
  | none => exact absurd (Word.add?_eq_none_iff.mp hadd) (by omega)
  | some sum =>
    rw [Address.ofFrame, Outcome.require_pos (UInt64.lt_iff_toNat_lt.mpr hlow), Word.mul, hstart]
    simp [Word.add, hadd, Outcome.Settled]

/-- Translating ends in an address or an error. -/
theorem settled_translate (m : PageMap) (va : VirtAddr) : (m.translate va).Settled := by
  unfold translate
  cases m.entry va with
  | error cause => exact trivial
  | ok entry =>
    simp only [Outcome.ofExcept, Outcome.ok_bind]
    split
    · split
      · exact trivial
      · split
        · rename_i h
          exact settled_ofFrame va.word m.pageSize_pow h
        · exact trivial
    · exact trivial

/-- The physical address of a virtual address, or the reason why there is none. -/
def lookup (m : PageMap) (va : VirtAddr) : Except TranslateError PhysAddr :=
  (m.translate va).toExcept (m.settled_translate va)

/-- The description of a page map. -/
def layout (m : PageMap) : Text.Layout :=
  .record "Pagemap" [("path", .quoted m.path), ("page_size", .word m.pageSize)] true

end PageMap

end HugePool
