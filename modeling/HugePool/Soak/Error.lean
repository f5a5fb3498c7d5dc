import HugePool.Error.Basic

/-!
# What the soak check can find wrong
-/

namespace HugePool.Soak

/-- A pool does not do what it should. -/
inductive Mismatch where
  /-- It handed out more buffers than it has. -/
  | allocatedPastCount
  | patternBroken (start : VirtAddr) (offset : Nat)
  | noBusAddress (va : VirtAddr)
  /-- The bus address of an address belongs to another address. -/
  | notInverse (bus : BusAddr) (va : VirtAddr)
  | buffersMissing
  deriving DecidableEq, Repr

/-- The words for a mismatch. -/
def Mismatch.message : Mismatch → String
  | .allocatedPastCount => "allocated past the buffer count"
  | .patternBroken start offset => "pattern broken at " ++ start.tagged ++ "+" ++ toString offset
  | .noBusAddress va => va.tagged ++ " has no bus address"
  | .notInverse bus va => bus.tagged ++ " does not map back to " ++ va.tagged
  | .buffersMissing => "buffers missing after release"

/-- The soak check failed. -/
inductive CheckError where
  | create (pool : String) (cause : CreateError)
  | buffer (pool : String) (index : Nat) (cause : StackError)
  | mismatch (pool : String) (what : Mismatch)
  deriving DecidableEq, Repr

/-- The message of a failure. -/
def CheckError.message : CheckError → String
  | .create pool cause => "creating pool " ++ pool ++ ": " ++ cause.message
  | .buffer pool index cause =>
    "pool " ++ pool ++ ": buffer " ++ toString index ++ ": " ++ cause.message
  | .mismatch pool what => "pool " ++ pool ++ ": " ++ what.message

end HugePool.Soak
