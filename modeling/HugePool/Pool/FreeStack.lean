import HugePool.Error.Basic

/-!
# The stack of free buffers

The free buffers of a pool are a stack of fixed capacity.  It is kept in an array of slots of which
those from `head` on are in use; the slots before `head` belong to buffers that are out, and what
they hold means nothing any more.  `FreeStack.toList` is the stack that the slots stand for, with
its top first:

* `pop` takes the top away, or fails when the stack is empty;
* `push` puts an address on top, or fails when every slot is in use; `refusal?` tells beforehand
  whether it will, and `put` is its work when it does not.

The stack does not know whose addresses it is given.
-/

namespace HugePool

/-- A stack of addresses of fixed capacity. -/
structure FreeStack where
  slots : Array VirtAddr
  /-- The number of slots that are not in use. -/
  head : Nat := 0
  deriving DecidableEq

namespace FreeStack

/-- The bytes that an address takes in the stack. -/
def slotBytes : Nat := 8

/-- The number of slots. -/
def capacity (s : FreeStack) : Nat := s.slots.size

/-- The number of addresses on the stack. -/
def available (s : FreeStack) : Nat := s.capacity - s.head

/-- The addresses on the stack, the top first. -/
def toList (s : FreeStack) : List VirtAddr := s.slots.toList.drop s.head

/-- Takes the top away. -/
def pop (s : FreeStack) : Except StackError (VirtAddr × FreeStack) :=
  if h : s.head < s.slots.size then
    .ok (s.slots[s.head], { s with head := s.head + 1 })
  else
    .error .exhausted

/-- Why an address cannot be put on top, if it cannot. -/
def refusal? (s : FreeStack) : Option StackError :=
  if s.head = 0 then some .full
  else if s.capacity < s.head then some (.corrupted s.head s.capacity)
  else none

/-- The stack with an address in the slot before those in use. -/
def put (s : FreeStack) (va : VirtAddr) : FreeStack :=
  ⟨s.slots.setIfInBounds (s.head - 1) va, s.head - 1⟩

/-- Puts an address on top. -/
def push (s : FreeStack) (va : VirtAddr) : Except StackError FreeStack :=
  match s.refusal? with
  | some cause => .error cause
  | none => .ok (s.put va)

theorem length_toList (s : FreeStack) : s.toList.length = s.available := by
  simp [toList, available, capacity]

theorem toList_pop {s : FreeStack} {va : VirtAddr} {s' : FreeStack} (h : s.pop = .ok (va, s')) :
    s.toList = va :: s'.toList := by
  unfold pop at h
  split at h
  · simp only [Except.ok.injEq, Prod.mk.injEq] at h
    obtain ⟨rfl, rfl⟩ := h
    rename_i hlt
    simp [toList, List.drop_eq_getElem_cons, hlt]
  · simp at h

theorem refusal?_eq_none_iff {s : FreeStack} :
    s.refusal? = none ↔ s.head ≠ 0 ∧ s.head ≤ s.capacity := by
  unfold refusal?
  split
  · simp_all
  · split <;> simp_all

theorem toList_push {s : FreeStack} {va : VirtAddr} {s' : FreeStack} (h : s.push va = .ok s') :
    s'.toList = va :: s.toList := by
  unfold push at h
  split at h
  · simp at h
  · rename_i hnone
    simp only [Except.ok.injEq] at h
    subst h
    have hhead : s.head ≠ 0 ∧ s.head ≤ s.capacity := refusal?_eq_none_iff.mp hnone
    have hlt : s.head - 1 < s.slots.toList.length := by
      rw [Array.length_toList]
      exact Nat.lt_of_lt_of_le (Nat.sub_one_lt hhead.1) hhead.2
    have hsucc : s.head - 1 + 1 = s.head := Nat.succ_pred_eq_of_ne_zero hhead.1
    simp only [toList, put, Array.toList_setIfInBounds]
    rw [List.drop_eq_getElem_cons (by simpa using hlt), List.getElem_set_self,
      List.drop_set_of_lt (by omega), hsucc]

end FreeStack

end HugePool
