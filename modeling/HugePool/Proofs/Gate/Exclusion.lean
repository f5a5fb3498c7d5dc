import HugePool.Gate.Interleaving
import Mathlib.Data.List.TakeDrop

/-!
# Who is inside a gate

Clients of a gate take guards, use the value through them and give them up, in any order.  An
`Attendance` is the gate together with the guards that are alive, and a `Move` is what one client
does next.  `Attendance.Exclusive` is what the gate is for: at most one guard is alive, and the gate
is closed just when one is.

* `Exclusive.move`: from an exclusive attendance every move leads to an exclusive one, with one
  exception, an attempt at a closed gate (`Exclusive.not_exclusive_tryLock`).
* `exclusive_iff_attempts_succeed`: hence a run stays exclusive throughout if and only if each
  single attempt in it is made at an open gate.
* `move_withLock`: a body inside the gate is a lock, the uses that it makes, and a drop.  Moves of
  others between these are therefore covered, too, and a body that panics drops its guard like one
  that does not.

The exception is the guard that a failed attempt makes and gives up: giving it up opens the gate
that somebody else had closed, and the guard of that other client stays alive.
-/

namespace HugePool.Gate

variable {α β κ π : Type}

/-- What a client does at a gate. -/
inductive Move (α β κ π : Type) where
  /-- Takes a guard if the gate is open, and goes on waiting if not. -/
  | lock (client : κ)
  /-- Makes a single attempt at a guard. -/
  | tryLock (client : κ)
  /-- Changes the value through a guard. -/
  | use (client : κ) (change : α → α)
  /-- Runs a body that nobody interrupts, or goes on waiting. -/
  | withLock (client : κ) (body : Body α β π)
  /-- Gives a guard up. -/
  | drop (client : κ)

/-- A gate and the guards that are alive, each given by the client who holds it. -/
structure Attendance (α κ : Type) where
  gate : Gate α
  guards : List κ := []

namespace Attendance

variable [DecidableEq κ]

/-- Lets a client make a move.  Nobody uses or gives up a guard without holding one. -/
def move (a : Attendance α κ) : Move α β κ π → Attendance α κ
  | .lock client =>
    match a.gate.lock? with
    | some gate => ⟨gate, client :: a.guards⟩
    | none => a
  | .tryLock client =>
    match a.gate.tryLock with
    | (true, gate) => ⟨gate, client :: a.guards⟩
    | (false, gate) => ⟨gate, a.guards⟩
  | .use client change =>
    if client ∈ a.guards then { a with gate.value := change a.gate.value } else a
  | .withLock _ body =>
    match a.gate.withLock? body.run with
    | some (_, gate) => ⟨gate, a.guards⟩
    | none => a
  | .drop client =>
    if client ∈ a.guards then ⟨a.gate.reopen, a.guards.erase client⟩ else a

/-- Lets clients make moves one after the other. -/
def moves (a : Attendance α κ) (run : List (Move α β κ π)) : Attendance α κ :=
  run.foldl move a

/-- At most one guard is alive, and the gate is closed just when one is. -/
def Exclusive (a : Attendance α κ) : Prop :=
  a.guards.length ≤ 1 ∧ (a.gate.closed = true ↔ a.guards.length = 1)

instance (a : Attendance α κ) : Decidable a.Exclusive :=
  inferInstanceAs (Decidable (_ ∧ _))

end Attendance

/-! ### Moves at an open and at a closed gate -/

namespace Attendance

variable [DecidableEq κ] {a : Attendance α κ}

theorem move_lock_of_open (h : a.gate.closed = false) (client : κ) :
    a.move (.lock client : Move α β κ π)
      = ⟨{ a.gate with closed := true }, client :: a.guards⟩ := by
  simp only [move, lock?, tryClose, h, Bool.false_eq_true, if_false]

theorem move_lock_of_closed (h : a.gate.closed = true) (client : κ) :
    a.move (.lock client : Move α β κ π) = a := by
  simp only [move, lock?, tryClose, h, if_true]

theorem move_tryLock_of_open (h : a.gate.closed = false) (client : κ) :
    a.move (.tryLock client : Move α β κ π)
      = ⟨{ a.gate with closed := true }, client :: a.guards⟩ := by
  simp only [move, tryLock, tryClose, h, Bool.false_eq_true, if_false]

/-- A failed attempt opens the gate, and ends nobody's guard. -/
theorem move_tryLock_of_closed (h : a.gate.closed = true) (client : κ) :
    a.move (.tryLock client : Move α β κ π) = ⟨a.gate.reopen, a.guards⟩ := by
  simp only [move, tryLock, tryClose, h, if_true]

theorem move_withLock_of_open (h : a.gate.closed = false) (client : κ) (body : Body α β π) :
    a.move (.withLock client body) = ⟨⟨false, (body.run a.gate.value).2⟩, a.guards⟩ := by
  simp only [move, withLock?, lock?, tryClose, h, Bool.false_eq_true, if_false, Option.map_some,
    reopen]

theorem move_withLock_of_closed (h : a.gate.closed = true) (client : κ) (body : Body α β π) :
    a.move (.withLock client body) = a := by
  simp only [move, withLock?, lock?, tryClose, h, if_true, Option.map_none]

theorem moves_append (a : Attendance α κ) (run rest : List (Move α β κ π)) :
    a.moves (run ++ rest) = (a.moves run).moves rest := List.foldl_append

end Attendance

/-! ### A body in pieces -/

namespace Body

/-- The changes that a body makes to the value that it finds. -/
def changes : Body α β π → α → List (α → α)
  | .finish _, _ => []
  | .use change next, value => change :: (next value).changes (change value)

end Body

namespace Attendance

variable [DecidableEq κ] {a : Attendance α κ}

/-- The uses that a body makes, through a guard that its client holds. -/
theorem moves_uses {client : κ} (h : client ∈ a.guards) (body : Body α β π) :
    a.moves ((body.changes a.gate.value).map (.use client) : List (Move α β κ π))
      = { a with gate.value := (body.run a.gate.value).2 } := by
  induction body generalizing a with
  | finish answer => rfl
  | use change next ih =>
    have huse : a.move (.use client change : Move α β κ π)
        = { a with gate.value := change a.gate.value } := if_pos h
    rw [Body.changes, List.map_cons, moves, List.foldl_cons, huse]
    exact ih a.gate.value (a := { a with gate.value := change a.gate.value }) h

/-- A body inside the gate is a lock, the uses that it makes, and a drop. -/
theorem move_withLock (h : a.gate.closed = false) (client : κ) (body : Body α β π) :
    a.move (.withLock client body)
      = a.moves ((.lock client :: (body.changes a.gate.value).map (.use client) ++ [.drop client] :
          List (Move α β κ π))) := by
  have huses := moves_uses (a := ⟨{ a.gate with closed := true }, client :: a.guards⟩)
    List.mem_cons_self body
  rw [move_withLock_of_open h, List.cons_append, moves, List.foldl_cons, move_lock_of_open h,
    ← moves, moves_append, huses]
  simp only [moves, List.foldl_cons, List.foldl_nil, move, List.mem_cons_self, if_true, reopen,
    List.erase_cons_head]

end Attendance

/-! ### Exclusion -/

namespace Attendance

section

variable {a : Attendance α κ}

theorem exclusive_ofValue (value : α) : (⟨ofValue value, []⟩ : Attendance α κ).Exclusive := by
  simp [Exclusive, ofValue]

/-- Nobody holds a guard while the gate is open, -/
theorem Exclusive.guards_of_open (h : a.Exclusive) (hopen : a.gate.closed = false) :
    a.guards = [] := by
  have hle := h.1
  have hne : a.guards.length ≠ 1 := fun hone => by simp [h.2.mpr hone] at hopen
  exact List.eq_nil_of_length_eq_zero (by omega)

/-- and one client holds one while it is closed. -/
theorem Exclusive.guards_of_closed (h : a.Exclusive) (hclosed : a.gate.closed = true) :
    ∃ holder, a.guards = [holder] := List.length_eq_one_iff.mp (h.2.mp hclosed)

/-- Closing an open gate for one client. -/
theorem Exclusive.close (h : a.Exclusive) (hopen : a.gate.closed = false) (client : κ) :
    (⟨{ a.gate with closed := true }, client :: a.guards⟩ : Attendance α κ).Exclusive := by
  rw [h.guards_of_open hopen]
  exact ⟨Nat.le_refl 1, iff_of_true rfl rfl⟩

/-- Changing the value. -/
theorem Exclusive.use (h : a.Exclusive) (change : α → α) :
    ({ a with gate.value := change a.gate.value } : Attendance α κ).Exclusive := h

end

variable [DecidableEq κ] {a : Attendance α κ}

/-- Giving up the one guard. -/
theorem Exclusive.drop (h : a.Exclusive) {client : κ} (hmem : client ∈ a.guards) :
    (⟨a.gate.reopen, a.guards.erase client⟩ : Attendance α κ).Exclusive := by
  have hle := h.1
  have hlen := List.length_erase_of_mem hmem
  have hzero : (a.guards.erase client).length = 0 := by omega
  simp [Exclusive, reopen, hzero]

/-- A move that is not an attempt at a closed gate keeps exclusion. -/
theorem Exclusive.move (h : a.Exclusive) {m : Move α β κ π}
    (hattempt : ∀ client, m = .tryLock client → a.gate.closed = false) :
    (a.move m).Exclusive := by
  cases m with
  | lock client =>
    cases hgate : a.gate.closed with
    | false => exact move_lock_of_open hgate client ▸ h.close hgate client
    | true => exact (move_lock_of_closed hgate client).symm ▸ h
  | tryLock client =>
    have hgate := hattempt client rfl
    exact move_tryLock_of_open hgate client ▸ h.close hgate client
  | use client change =>
    by_cases hmem : client ∈ a.guards
    · rw [Attendance.move, if_pos hmem]
      exact h.use change
    · rw [Attendance.move, if_neg hmem]
      exact h
  | withLock client body =>
    cases hgate : a.gate.closed with
    | false =>
      rw [move_withLock_of_open hgate, h.guards_of_open hgate]
      exact exclusive_ofValue _
    | true => exact (move_withLock_of_closed hgate client body).symm ▸ h
  | drop client =>
    by_cases hmem : client ∈ a.guards
    · rw [Attendance.move, if_pos hmem]
      exact h.drop hmem
    · rw [Attendance.move, if_neg hmem]
      exact h

/-- An attempt at a closed gate breaks exclusion: the gate is open, and the holder has the guard. -/
theorem Exclusive.not_exclusive_tryLock (h : a.Exclusive) (hclosed : a.gate.closed = true)
    (client : κ) : ¬ (a.move (.tryLock client : Move α β κ π)).Exclusive := by
  rw [move_tryLock_of_closed hclosed]
  rintro ⟨-, hiff⟩
  exact Bool.false_ne_true (hiff.mpr (h.2.mp hclosed))

/-- The attendance after `n` moves, one move on. -/
theorem moves_take_succ (a : Attendance α κ) {run : List (Move α β κ π)} {n : Nat}
    {m : Move α β κ π} (h : run[n]? = some m) :
    a.moves (run.take (n + 1)) = (a.moves (run.take n)).move m := by
  rw [List.take_add_one, h, moves_append]
  rfl

/-- **Exclusion**: clients of a new gate are kept apart all through a run of moves if and only if
each attempt of the run is made while the gate is open.  An attempt at a gate that one client has
closed is answered with no guard, but it opens the gate; that client keeps the guard, and the next
one who wants a guard gets a second. -/
theorem exclusive_iff_attempts_succeed (value : α) (run : List (Move α β κ π)) :
    ((∀ n, (Attendance.moves ⟨ofValue value, []⟩ (run.take n)).Exclusive) ↔
      ∀ n client, run[n]? = some (.tryLock client) →
        (Attendance.moves ⟨ofValue value, []⟩ (run.take n)).gate.closed = false) ∧
    ∀ a : Attendance α κ, a.Exclusive → a.gate.closed = true → ∀ client next : κ,
      a.gate.tryLock = (false, a.gate.reopen) ∧
      ∃ holder, (a.move (.tryLock client : Move α β κ π)).guards = [holder] ∧
        (a.moves [.tryLock client, (.lock next : Move α β κ π)]).guards = [next, holder] ∧
        (a.moves [.tryLock client, (.tryLock next : Move α β κ π)]).guards = [next, holder] := by
  refine ⟨⟨fun h n client hn => ?_, fun h n => ?_⟩, fun a h hclosed client next => ?_⟩
  · by_contra hclosed
    have hbroken := (h n).not_exclusive_tryLock (β := β) (π := π) (by simpa using hclosed) client
    rw [← moves_take_succ _ hn] at hbroken
    exact hbroken (h (n + 1))
  · -- the moves are made one after the other, and none of them is a failed attempt
    induction n with
    | zero => exact exclusive_ofValue value
    | succ n ih =>
      cases hm : run[n]? with
      | none =>
        rw [List.take_add_one, hm]
        simpa using ih
      | some m =>
        rw [moves_take_succ _ hm]
        exact ih.move fun client hclient => h n client (hclient ▸ hm)
  · obtain ⟨holder, hguards⟩ := h.guards_of_closed hclosed
    have hmove : a.move (.tryLock client : Move α β κ π) = ⟨a.gate.reopen, [holder]⟩ := by
      rw [move_tryLock_of_closed hclosed, hguards]
    have hreopen : (⟨a.gate.reopen, [holder]⟩ : Attendance α κ).gate.closed = false := rfl
    refine ⟨?_, holder, ?_, ?_, ?_⟩
    · simp only [tryLock, tryClose, hclosed, if_true]
    · rw [hmove]
    · rw [moves, List.foldl_cons, hmove, List.foldl_cons, move_lock_of_open hreopen, List.foldl_nil]
    · rw [moves, List.foldl_cons, hmove, List.foldl_cons, move_tryLock_of_open hreopen,
        List.foldl_nil]

/-- The second of three clients makes an attempt while the first holds a guard, and the third gets a
second guard. -/
theorem two_guards_after_failed_attempt :
    ¬ ∀ run : List (Move Nat Unit Nat Unit),
      (Attendance.moves ⟨ofValue 7, []⟩ run).Exclusive := by
  intro h
  exact absurd (h [.lock 0, .tryLock 1, .lock 2]) (by decide)

end Attendance

end HugePool.Gate
