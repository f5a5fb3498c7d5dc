import HugePool.Text.Layout

/-!
# Devices and transfer directions

A pool is made for one device, which a pair of numbers identifies.  A transfer goes to the device,
from it, or both ways.
-/

namespace HugePool

/-- A device, given by its number and the number of the part addressed on it. -/
structure Device where
  device : UInt32 := 0
  subdevice : UInt32 := 0
  deriving DecidableEq, Repr

namespace Device

/-- The two numbers with a point between them. -/
def text (d : Device) : String :=
  toString d.device.toNat ++ "." ++ toString d.subdevice.toNat

/-- The description of a device. -/
def layout (d : Device) : Text.Layout :=
  .record "DmaDevice"
    [("device", .nat d.device.toNat), ("subdevice", .nat d.subdevice.toNat)] true

end Device

/-- Which side writes the memory of a transfer. -/
inductive Direction where
  | toDevice
  | fromDevice
  | bidirectional
  deriving DecidableEq, Repr

/-- The name of a direction. -/
def Direction.name : Direction → String
  | .toDevice => "ToDevice"
  | .fromDevice => "FromDevice"
  | .bidirectional => "Bidirectional"

end HugePool
