import HugePool.PageSize
import HugePool.Text.Hex
import HugePool.Text.Layout

/-!
# Addresses

One buffer has several names: where the processor sees it, where its bytes lie in memory, and what
the device is told.  An `Address` is a word together with the space it belongs to, so that an
address of one space never stands where another is meant.

An address is written as `0x` and sixteen hexadecimal digits; in a description the tag of its space
goes round it.
-/

namespace HugePool

/-- What an address is an address of. -/
inductive Space where
  /-- Memory in general. -/
  | memory
  /-- The memory of the process. -/
  | virtual
  /-- The memory of the machine. -/
  | physical
  /-- What a device sees. -/
  | bus
  deriving DecidableEq, Repr

/-- The tag that marks addresses of a space in a description. -/
def Space.tag : Space → String
  | .memory => "MemoryAddress"
  | .virtual => "VA"
  | .physical => "PA"
  | .bus => "BA"

/-- An address in a space. -/
@[ext]
structure Address (space : Space) where
  /-- The address as a word. -/
  word : UInt64
  deriving DecidableEq, Repr

/-- An address of the process. -/
abbrev VirtAddr := Address .virtual

/-- An address of the machine's memory. -/
abbrev PhysAddr := Address .physical

/-- An address on a device's bus. -/
abbrev BusAddr := Address .bus

namespace Address

variable {space : Space}

/-- The address as a number. -/
def toNat (a : Address space) : Nat := a.word.toNat

theorem toNat_lt (a : Address space) : a.toNat < UInt64.size := a.word.toNat_lt

theorem toNat_inj {a b : Address space} : a.toNat = b.toNat ↔ a = b := by
  rw [Address.ext_iff]
  exact UInt64.toNat_inj

/-- The address `n` bytes on, or `none` past the end of the space. -/
def add? (a : Address space) (n : UInt64) : Option (Address space) :=
  (Word.add? a.word n).map Address.mk

theorem add?_eq_some_iff {a b : Address space} {n : UInt64} :
    a.add? n = some b ↔ b.toNat = a.toNat + n.toNat := by
  simp only [add?, Option.map_eq_some_iff, toNat]
  constructor
  · rintro ⟨w, hw, rfl⟩
    exact Word.add?_eq_some_iff.mp hw
  · intro h
    exact ⟨b.word, Word.add?_eq_some_iff.mpr h, rfl⟩

theorem add?_eq_none_iff {a : Address space} {n : UInt64} :
    a.add? n = none ↔ UInt64.size ≤ a.toNat + n.toNat := by
  simp [add?, toNat, Word.add?_eq_none_iff]

/-- The address is zero. -/
def isZero (a : Address space) : Bool := a.word == 0

/-- The address if it is one that a pointer may hold, which zero is not. -/
def nonzero? (a : Address space) : Option (Address space) :=
  if a.isZero then none else some a

/-- The distance of the address from the start of its page. -/
def offsetIn (a : Address space) (size : PageSize) : UInt64 :=
  a.word &&& (size.bytes - 1)

/-- The order of two addresses of one space. -/
def order (a b : Address space) : Ordering := compare a.word b.word

/-- The address in sixteen hexadecimal digits. -/
def text (a : Address space) : String :=
  Text.hexPadded 16 a.toNat

/-- The address with the tag of its space. -/
def tagged (a : Address space) : String :=
  space.tag ++ "(" ++ a.text ++ ")"

/-- The description of an address. -/
def layout (a : Address space) : Text.Layout := .bare a.tagged

/-- The bus address with the number of a physical address: what a device sees when nothing
translates for it. -/
def toBus (a : Address .physical) : Address .bus := ⟨a.word⟩

end Address

end HugePool
