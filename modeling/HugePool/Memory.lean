import HugePool.Word

/-!
# Memory

A `Memory` is a run of bytes that starts as zeros and has no end of its own.  Storing bytes changes
those at the places stored to and no others, and a word is stored as its eight bytes, least
significant first.
-/

namespace HugePool

/-- The contents of a run of bytes. -/
structure Memory where
  /-- The byte at a distance from the start. -/
  byteAt : Nat → UInt8

namespace Memory

/-- Memory that holds zeros. -/
def zero : Memory := ⟨fun _ => 0⟩

/-- Stores `len` bytes from `start` on, the byte `f i` at the place `start + i`. -/
def store (m : Memory) (start len : Nat) (f : Nat → UInt8) : Memory :=
  ⟨fun i => if start ≤ i ∧ i < start + len then f (i - start) else m.byteAt i⟩

/-- The `len` bytes from `start` on. -/
def load (m : Memory) (start len : Nat) : List UInt8 :=
  (List.range len).map fun i => m.byteAt (start + i)

/-- Stores the bytes of a word. -/
def storeWord (m : Memory) (start : Nat) (w : UInt64) : Memory :=
  m.store start 8 (Word.byte w)

/-- The word whose bytes start at `start`. -/
def word (m : Memory) (start : Nat) : UInt64 :=
  Word.ofBytes fun i => m.byteAt (start + i)

@[simp] theorem byteAt_zero (i : Nat) : zero.byteAt i = 0 := rfl

theorem byteAt_store (m : Memory) (start len i : Nat) (f : Nat → UInt8) :
    (m.store start len f).byteAt i =
      if start ≤ i ∧ i < start + len then f (i - start) else m.byteAt i := rfl

theorem length_load (m : Memory) (start len : Nat) : (m.load start len).length = len := by
  simp [load]

theorem word_storeWord (m : Memory) (start : Nat) (w : UInt64) :
    (m.storeWord start w).word start = w := by
  rw [word, Word.ofBytes_congr (g := Word.byte w), Word.ofBytes_byte]
  intro i hi
  rw [storeWord, byteAt_store, if_pos (by omega), Nat.add_sub_cancel_left]

/-- Bytes stored past a word leave the word alone, and so do bytes stored before it. -/
theorem word_store (m : Memory) (start len place : Nat) (f : Nat → UInt8)
    (h : place + 8 ≤ start ∨ start + len ≤ place) :
    (m.store start len f).word place = m.word place := by
  apply Word.ofBytes_congr
  intro i hi
  rw [byteAt_store, if_neg (by omega)]

end Memory

end HugePool
