import HugePool.Word

/-!
# Page sizes

The platform's base pages and the huge pages that pools are carved from, and the fixed limits of a
pool.
-/

namespace HugePool

/-- A supported page size. -/
inductive PageSize where
  /-- Base pages of 4 KiB. -/
  | base
  /-- Huge pages of 2 MiB. -/
  | huge
  deriving DecidableEq, Repr

namespace PageSize

/-- The binary logarithm of the size: the number of low address bits that are an offset. -/
def shift : PageSize → Nat
  | .base => 12
  | .huge => 21

/-- The size in bytes. -/
def bytes : PageSize → UInt64
  | .base => 4096
  | .huge => 2097152

/-- The size as the memory-mapping call expects it among its flags: the logarithm from bit 26 up. -/
def mapSelector (size : PageSize) : Nat :=
  size.shift <<< 26

/-- The usual short name of the size. -/
def name : PageSize → String
  | .base => "4K"
  | .huge => "2M"

theorem toNat_bytes (size : PageSize) : size.bytes.toNat = 1 <<< size.shift := by
  cases size <;> rfl

end PageSize

/-! ### Limits of a pool -/

/-- The bytes of one huge page. -/
def hugePageSize : UInt64 := PageSize.huge.bytes

/-- The bytes in front of the first buffer of a pool that fits in one huge page. -/
def headerSize : UInt64 := PageSize.base.bytes

/-- The largest alignment that a pool's buffers may ask for. -/
def maxAlignment : UInt64 := headerSize

/-- The alignment of buffers that ask for none. -/
def defaultAlignment : UInt64 := 64

/-- The longest name of a pool, in bytes. -/
def maxNameBytes : Nat := 63

/-- The bytes of one word. -/
def wordBytes : UInt64 := 8

@[simp] theorem toNat_hugePageSize : hugePageSize.toNat = 2097152 := rfl

@[simp] theorem toNat_headerSize : headerSize.toNat = 4096 := rfl

end HugePool
