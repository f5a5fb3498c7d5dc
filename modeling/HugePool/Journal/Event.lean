import HugePool.Journal.Notice

/-!
# Events

An operation on pools is seen from outside by the calls that it makes to its surroundings and by the
records that it logs.  An `Event` is one of these, and a journal is the list of them in the order in
which they happen.  Every call comes with the answer that it got.
-/

namespace HugePool

/-- The number under which a device's mapper is known. -/
abbrev MapperId := Nat

/-- A call to the surroundings, or a record of the log. -/
inductive Event where
  /-- Huge pages of `len` bytes were asked for. -/
  | mapPages (len : UInt64) (answer : Except PagesError VirtAddr)
  /-- Huge pages were given back. -/
  | unmapPages (start : VirtAddr) (len : UInt64)
  /-- A virtual address was to be translated. -/
  | translate (va : VirtAddr) (answer : Except TranslateError PhysAddr)
  /-- A mapper was asked to make memory visible to a device. -/
  | mapBus (mapper : MapperId) (device : Device) (phys : PhysAddr) (len : UInt64)
      (answer : Except BusError BusAddr)
  /-- A mapper was asked to hide memory from a device. -/
  | unmapBus (mapper : MapperId) (device : Device) (bus : BusAddr) (len : UInt64)
      (answer : Except BusError Unit)
  /-- A record was logged. -/
  | log (record : LogRecord)

namespace Event

/-- The record that an event is. -/
def record? : Event → Option LogRecord
  | .log record => some record
  | _ => none

/-- An address as a decimal number, or the word for a refusal. -/
def answerText {ε : Type} {space : Space} : Except ε (Address space) → String
  | .ok a => toString a.toNat
  | .error _ => "Err"

/-- The line of an event in a written journal. -/
def line : Event → String
  | .mapPages len answer =>
    "backend.map " ++ toString len.toNat ++ " -> " ++ answerText answer
  | .unmapPages start len =>
    "backend.unmap " ++ toString start.toNat ++ " " ++ toString len.toNat
  | .translate va answer => "resolve " ++ toString va.toNat ++ " -> " ++ answerText answer
  | .mapBus _ device phys len answer =>
    "bus.map " ++ device.text ++ " " ++ toString phys.toNat ++ " " ++ toString len.toNat ++ " -> "
      ++ answerText answer
  | .unmapBus _ device bus len answer =>
    "bus.unmap " ++ device.text ++ " " ++ toString bus.toNat ++ " " ++ toString len.toNat ++ " -> "
      ++ (match answer with
        | .ok _ => "Ok"
        | .error _ => "Err")
  | .log record => "log " ++ record.level.name ++ " " ++ record.origin ++ ": " ++ record.message

end Event

end HugePool
