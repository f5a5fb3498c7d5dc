import HugePool.Journal.Event
import Mathlib.Data.List.Perm.Basic

/-!
# What a device can reach

A journal tells which huge pages devices can reach: an answered call to map a page exposes it, and
an answered call to unmap it hides it again.  A `Ledger` keeps the account.  The page of a call to
map is the one whose address was translated last; a call to unmap gives a bus address only, and
since mappers may answer the same bus address for several pages, it hides *one* of the pages that
are exposed there (`Ledger.Step`).

A journal is `Orderly` if it can be read so that huge pages are given back only when none of them is
exposed.

* `Adds`: events that only expose pages.
* `Undoes`: events that hide what was exposed, as long as nothing goes wrong.  A page that a mapper
  refuses to unmap stays exposed, and so does one whose bus address has no room for a page, for that
  one is never unmapped (`Event.Faulty`).
* `Undoes.faultless_of_hidden`: these are the only reasons.  Each answered call hides at most one
  page, so when all are hidden in the end there was an answered call for every one of them.
* `Returns.settle`: hence pages that are given back after such events can be given back if and only
  if there was no fault.
* `Separate.outstanding`: pages that were handed out together have no address in common with others,
  as long as the source of huge pages keeps its promise (`Unaliased`).
-/

namespace HugePool

/-- A huge page that a device can reach through a mapper. -/
structure Exposure where
  page : VirtAddr
  mapper : MapperId
  device : Device
  bus : BusAddr
  deriving DecidableEq

/-- The page is one of those from `start` on. -/
def Exposure.Within (start : VirtAddr) (len : UInt64) (e : Exposure) : Prop :=
  start.toNat ≤ e.page.toNat ∧ e.page.toNat < start.toNat + len.toNat

/-- The page is exposed at a bus address. -/
def Exposure.At (mapper : MapperId) (device : Device) (bus : BusAddr) (e : Exposure) : Prop :=
  e.mapper = mapper ∧ e.device = device ∧ e.bus = bus

/-- The pages that are exposed, and the address that was translated last. -/
structure Ledger where
  page : VirtAddr := ⟨0⟩
  exposed : List Exposure := []

namespace Ledger

/-- What an event makes of a ledger. -/
def Step (l : Ledger) : Event → Ledger → Prop
  | .translate va _, l' => l' = { l with page := va }
  | .mapBus mapper device _ _ (.ok bus), l' =>
    l' = { l with exposed := ⟨l.page, mapper, device, bus⟩ :: l.exposed }
  | .unmapBus mapper device bus _ (.ok _), l' =>
    (∃ e ∈ l.exposed, e.At mapper device bus ∧ l' = { l with exposed := l.exposed.erase e }) ∨
      (∀ e ∈ l.exposed, ¬ e.At mapper device bus) ∧ l' = l
  | .unmapPages start len, l' => (∀ e ∈ l.exposed, ¬ e.Within start len) ∧ l' = l
  | _, l' => l' = l

/-- What a sequence of events makes of a ledger. -/
def Run : Ledger → List Event → Ledger → Prop
  | l, [], l' => l' = l
  | l, event :: rest, l' => ∃ next, l.Step event next ∧ Run next rest l'

theorem run_append {l l' : Ledger} {first second : List Event} :
    Run l (first ++ second) l' ↔ ∃ next, Run l first next ∧ Run next second l' := by
  induction first generalizing l with
  | nil => simp [Run]
  | cons event rest ih =>
    simp only [List.cons_append, Run, ih]
    constructor
    · rintro ⟨after, hstep, next, hrest, hsecond⟩
      exact ⟨next, ⟨after, hstep, hrest⟩, hsecond⟩
    · rintro ⟨next, ⟨after, hstep, hrest⟩, hsecond⟩
      exact ⟨after, hstep, next, hrest, hsecond⟩

end Ledger

/-- Huge pages are given back only when none of them is exposed. -/
def Orderly (journal : List Event) : Prop := ∃ l, Ledger.Run {} journal l

/-! ### Kinds of events -/

namespace Event

/-- The source of huge pages is not called. -/
def Quiet : Event → Prop
  | .mapPages _ _ => False
  | .unmapPages _ _ => False
  | _ => True

/-- Neither is a page exposed or hidden. -/
def Plain : Event → Prop
  | .mapBus _ _ _ _ (.ok _) => False
  | .unmapBus _ _ _ _ _ => False
  | .unmapPages _ _ => False
  | _ => True

/-- A page is exposed where there is no room for it, or is not hidden again. -/
def Faulty : Event → Prop
  | .mapBus _ _ _ _ (.ok bus) => UInt64.size ≤ bus.toNat + hugePageSize.toNat
  | .unmapBus _ _ _ _ (.error _) => True
  | _ => False

instance : DecidablePred Faulty
  | .mapBus _ _ _ _ (.ok bus) =>
    inferInstanceAs (Decidable (UInt64.size ≤ bus.toNat + hugePageSize.toNat))
  | .unmapBus _ _ _ _ (.error _) => .isTrue trivial
  | .mapBus _ _ _ _ (.error _) => .isFalse id
  | .unmapBus _ _ _ _ (.ok _) => .isFalse id
  | .log _ => .isFalse id
  | .mapPages _ _ => .isFalse id
  | .unmapPages _ _ => .isFalse id
  | .translate _ _ => .isFalse id

theorem Plain.not_faulty {e : Event} (h : e.Plain) : ¬ e.Faulty := by
  intro hfaulty
  cases e with
  | mapBus _ _ _ _ answer => cases answer <;> exact (by assumption : False)
  | unmapBus _ _ _ _ _ => exact h
  | _ => exact hfaulty

end Event

/-- The source of huge pages is not called. -/
def Quiet (events : List Event) : Prop := ∀ e ∈ events, e.Quiet

/-- Every page that is exposed has room, and every one that is to be hidden is hidden. -/
def Faultless (events : List Event) : Prop := ∀ e ∈ events, ¬ e.Faulty

instance (events : List Event) : Decidable (Faultless events) :=
  inferInstanceAs (Decidable (∀ e ∈ events, ¬ e.Faulty))

theorem quiet_append {first second : List Event} :
    Quiet (first ++ second) ↔ Quiet first ∧ Quiet second := List.forall_mem_append

theorem faultless_append {first second : List Event} :
    Faultless (first ++ second) ↔ Faultless first ∧ Faultless second := List.forall_mem_append

theorem faultless_of_plain {events : List Event} (h : ∀ e ∈ events, e.Plain) : Faultless events :=
  fun e he => (h e he).not_faulty

theorem Event.Plain.step {e : Event} (h : e.Plain) (l : Ledger) :
    ∃ next, l.Step e next ∧ ∀ l', l.Step e l' → l'.exposed = l.exposed := by
  cases e with
  | unmapBus _ _ _ _ _ => exact h.elim
  | unmapPages _ _ => exact h.elim
  | mapBus _ _ _ _ answer =>
    cases answer with
    | ok _ => exact h.elim
    | error _ => exact ⟨l, rfl, fun _ hstep => congrArg Ledger.exposed hstep⟩
  | log _ => exact ⟨l, rfl, fun _ hstep => congrArg Ledger.exposed hstep⟩
  | mapPages _ _ => exact ⟨l, rfl, fun _ hstep => congrArg Ledger.exposed hstep⟩
  | translate va _ =>
    refine ⟨{ l with page := va }, rfl, fun l' hstep => ?_⟩
    have hl' : l' = { l with page := va } := hstep
    rw [hl']

/-- As long as no pages are given back, every journal can be read in some way. -/
theorem Ledger.exists_run_of_quiet {events : List Event} (h : Quiet events) (l : Ledger) :
    ∃ l', Ledger.Run l events l' := by
  induction events generalizing l with
  | nil => exact ⟨l, rfl⟩
  | cons event rest ih =>
    obtain ⟨hevent, hrest⟩ := List.forall_mem_cons.mp h
    have hstep : ∃ next, l.Step event next := by
      cases event with
      | mapPages _ _ => exact hevent.elim
      | unmapPages _ _ => exact hevent.elim
      | log _ => exact ⟨_, rfl⟩
      | translate _ _ => exact ⟨_, rfl⟩
      | mapBus _ _ _ _ answer => cases answer <;> exact ⟨_, rfl⟩
      | unmapBus mapper device bus _ answer =>
        cases answer with
        | error _ => exact ⟨_, rfl⟩
        | ok _ =>
          -- any page that is exposed there will do
          by_cases hat : ∃ e ∈ l.exposed, e.At mapper device bus
          · obtain ⟨e, he, hat⟩ := hat
            exact ⟨_, Or.inl ⟨e, he, hat, rfl⟩⟩
          · exact ⟨_, Or.inr ⟨fun e he hat' => hat ⟨e, he, hat'⟩, rfl⟩⟩
    obtain ⟨next, hnext⟩ := hstep
    obtain ⟨l', hrun⟩ := ih hrest next
    exact ⟨l', next, hnext, hrun⟩

/-! ### Events that expose pages -/

/-- The events expose the pages `made`, and hide none. -/
structure Adds (events : List Event) (made : List Exposure) : Prop where
  exists_run : ∀ l, ∃ l', Ledger.Run l events l'
  exposed_eq : ∀ {l l'}, Ledger.Run l events l' → l'.exposed = made ++ l.exposed

namespace Adds

theorem append {first second : List Event} {made more : List Exposure} (hfirst : Adds first made)
    (hsecond : Adds second more) : Adds (first ++ second) (more ++ made) where
  exists_run l := by
    obtain ⟨next, hnext⟩ := hfirst.exists_run l
    obtain ⟨l', hl'⟩ := hsecond.exists_run next
    exact ⟨l', Ledger.run_append.mpr ⟨next, hnext, hl'⟩⟩
  exposed_eq h := by
    obtain ⟨next, hnext, hl'⟩ := Ledger.run_append.mp h
    rw [hsecond.exposed_eq hl', hfirst.exposed_eq hnext, List.append_assoc]

theorem of_plain {events : List Event} (h : ∀ e ∈ events, e.Plain) : Adds events [] := by
  induction events with
  | nil => exact ⟨fun l => ⟨l, rfl⟩, fun hrun => by rw [hrun]; rfl⟩
  | cons event rest ih =>
    obtain ⟨hevent, hrest⟩ := List.forall_mem_cons.mp h
    have hone : Adds [event] [] := by
      constructor
      · intro l
        obtain ⟨next, hnext, -⟩ := hevent.step l
        exact ⟨next, next, hnext, rfl⟩
      · rintro l l' ⟨next, hnext, rfl⟩
        obtain ⟨_, -, hexposed⟩ := hevent.step l
        exact hexposed l' hnext
    exact hone.append (ih hrest)

/-- A page that was translated and mapped is exposed. -/
theorem expose (va : VirtAddr) (phys : Except TranslateError PhysAddr) (mapper : MapperId)
    (device : Device) (frame : PhysAddr) (len : UInt64) (bus : BusAddr) :
    Adds [.translate va phys, .mapBus mapper device frame len (.ok bus)]
      [⟨va, mapper, device, bus⟩] where
  exists_run l := ⟨_, _, rfl, _, rfl, rfl⟩
  exposed_eq h := by
    obtain ⟨_, htranslate, _, hmap, hrun⟩ := h
    rw [hrun, hmap, htranslate]
    rfl

end Adds

/-! ### Events that hide pages -/

/-- The events only hide pages: the pages `base`, as far as they are not refused. -/
structure Hides (base : List Exposure) (events : List Event) : Prop where
  quiet : Quiet events
  hides : Faultless events → ∀ (l : Ledger) (others : List Exposure),
    l.exposed.Perm (base ++ others) → ∃ l', Ledger.Run l events l' ∧ l'.exposed.Perm others
  at_most : ∀ l l' : Ledger, Ledger.Run l events l' →
    ∃ hidden, (hidden ++ l'.exposed).Perm l.exposed ∧ hidden.length ≤ base.length ∧
      (hidden.length = base.length → Faultless events)

namespace Hides

variable {base : List Exposure} {events : List Event}

theorem nil : Hides [] [] where
  quiet := List.forall_mem_nil _
  hides _ l _ h := ⟨l, rfl, h⟩
  at_most l l' hrun := by
    rw [hrun]
    exact ⟨[], List.Perm.refl _, Nat.le_refl _, fun _ => List.forall_mem_nil _⟩

/-- An answered call to unmap a page hides one page, and may hide this one. -/
theorem cons (e : Exposure) (len : UInt64) (h : Hides base events) :
    Hides (e :: base) (.unmapBus e.mapper e.device e.bus len (.ok ()) :: events) where
  quiet := List.forall_mem_cons.mpr ⟨trivial, h.quiet⟩
  hides hfaultless l others hl := by
    have hmem : e ∈ l.exposed := hl.mem_iff.mpr List.mem_cons_self
    have hleft : (l.exposed.erase e).Perm (base ++ others) := by
      have herase := hl.erase e
      rwa [List.cons_append, List.erase_cons_head] at herase
    obtain ⟨l', hrun, hl'⟩ := h.hides (List.forall_mem_cons.mp hfaultless).2
      { l with exposed := l.exposed.erase e } others hleft
    exact ⟨l', ⟨_, Or.inl ⟨e, hmem, ⟨rfl, rfl, rfl⟩, rfl⟩, hrun⟩, hl'⟩
  at_most l l' hrun := by
    obtain ⟨next, hstep, hrest⟩ := hrun
    obtain ⟨hidden, hperm, hle, heq⟩ := h.at_most next l' hrest
    have hfault : ¬ (Event.unmapBus e.mapper e.device e.bus len (.ok ())).Faulty := id
    -- it may have hidden a page other than `e`, but no more than one
    rcases hstep with ⟨found, hfound, -, rfl⟩ | ⟨-, rfl⟩
    · refine ⟨found :: hidden, ?_, Nat.succ_le_succ hle, fun hlen => ?_⟩
      · exact (hperm.cons found).trans (List.perm_cons_erase hfound).symm
      · exact List.forall_mem_cons.mpr ⟨hfault, heq (Nat.succ.inj hlen)⟩
    · refine ⟨hidden, hperm, Nat.le_succ_of_le hle, fun hlen => ?_⟩
      rw [List.length_cons] at hlen
      omega

/-- A refused call hides nothing, and is the last one. -/
theorem refused (e : Exposure) (len : UInt64) (cause : BusError) (record : LogRecord) :
    Hides (e :: base) [.unmapBus e.mapper e.device e.bus len (.error cause), .log record] where
  quiet := by simp [Quiet, Event.Quiet]
  hides hfaultless := absurd trivial (hfaultless _ List.mem_cons_self)
  at_most l l' hrun := by
    obtain ⟨_, rfl, _, rfl, rfl⟩ := hrun
    exact ⟨[], List.Perm.refl _, Nat.zero_le _, fun hlen => absurd hlen (by simp)⟩

end Hides

/-- The events hide the pages `base` and those that they expose themselves, as far as they can.  All
these pages are among those from `start` on. -/
structure Undoes (start : VirtAddr) (len : UInt64) (base : List Exposure) (events : List Event) :
    Prop where
  quiet : Quiet events
  hides : Faultless events → ∀ (l : Ledger) (others : List Exposure),
    l.exposed.Perm (base ++ others) → ∃ l', Ledger.Run l events l' ∧ l'.exposed.Perm others
  falls_short : ∀ (l l' : Ledger) (others : List Exposure),
    l.exposed.Perm (base ++ others) → Ledger.Run l events l' →
      ∃ hidden own, (hidden ++ l'.exposed).Perm (own ++ others) ∧
        (∀ e ∈ own, e.Within start len) ∧ hidden.length ≤ own.length ∧
        (hidden.length = own.length → Faultless events)

/-- If no more is taken away than what has a property, and nothing with the property is left, then
just that was taken away. -/
theorem perm_of_none_left {α : Type} {P : α → Prop} {hidden left own others : List α}
    (hperm : (hidden ++ left).Perm (own ++ others)) (hown : ∀ e ∈ own, P e)
    (hothers : ∀ e ∈ others, ¬ P e) (hlen : hidden.length ≤ own.length)
    (hleft : ∀ e ∈ left, ¬ P e) :
    hidden.length = own.length ∧ left.Perm others := by
  classical
  have hall : own.filter (fun e => decide (P e)) = own :=
    List.filter_eq_self.mpr fun e he => decide_eq_true (hown e he)
  have hnone : ∀ l : List α, (∀ e ∈ l, ¬ P e) → l.filter (fun e => decide (P e)) = [] := by
    intro l hl
    exact List.filter_eq_nil_iff.mpr fun e he => by simpa using hl e he
  have hfilter := hperm.filter (fun e => decide (P e))
  rw [List.filter_append, List.filter_append, hall, hnone left hleft, hnone others hothers,
    List.append_nil, List.append_nil] at hfilter
  -- all that was taken away has the property, for otherwise it would be fewer
  have hcount := hfilter.length_eq
  have hle := List.length_filter_le (fun e => decide (P e)) hidden
  have hself : hidden.filter (fun e => decide (P e)) = hidden :=
    List.filter_eq_self.mpr (List.length_filter_eq_length_iff.mp (by omega))
  rw [hself] at hfilter
  refine ⟨hfilter.length_eq, ?_⟩
  exact (List.perm_append_left_iff own).mp ((hfilter.symm.append_right left).trans hperm)

namespace Undoes

variable {start : VirtAddr} {len : UInt64} {base made : List Exposure} {first events : List Event}

theorem of_hides (h : Hides base events) (hwithin : ∀ e ∈ base, e.Within start len) :
    Undoes start len base events where
  quiet := h.quiet
  hides := h.hides
  falls_short l l' others hl hrun := by
    obtain ⟨hidden, hperm, hle, heq⟩ := h.at_most l l' hrun
    exact ⟨hidden, base, hperm.trans hl, hwithin, hle, heq⟩

theorem of_perm (h : Undoes start len base events) (hperm : made.Perm base) :
    Undoes start len made events where
  quiet := h.quiet
  hides hfaultless l others hl := h.hides hfaultless l others (hl.trans (hperm.append_right _))
  falls_short l l' others hl := h.falls_short l l' others (hl.trans (hperm.append_right _))

/-- Pages that are exposed without a fault are hidden with the others. -/
theorem after_adds (h : Undoes start len (made ++ base) events) (hadds : Adds first made)
    (hquiet : Quiet first) (hfaultless : Faultless first) :
    Undoes start len base (first ++ events) where
  quiet := quiet_append.mpr ⟨hquiet, h.quiet⟩
  hides hall l others hl := by
    obtain ⟨next, hnext⟩ := hadds.exists_run l
    have hexposed : next.exposed.Perm (made ++ base ++ others) := by
      rw [hadds.exposed_eq hnext, List.append_assoc]
      exact hl.append_left made
    obtain ⟨l', hrun, hl'⟩ := h.hides (faultless_append.mp hall).2 next others hexposed
    exact ⟨l', Ledger.run_append.mpr ⟨next, hnext, hrun⟩, hl'⟩
  falls_short l l' others hl hrun := by
    obtain ⟨next, hnext, hrun⟩ := Ledger.run_append.mp hrun
    have hexposed : next.exposed.Perm (made ++ base ++ others) := by
      rw [hadds.exposed_eq hnext, List.append_assoc]
      exact hl.append_left made
    obtain ⟨hidden, own, hperm, hown, hle, heq⟩ := h.falls_short next l' others hexposed hrun
    exact ⟨hidden, own, hperm, hown, hle, fun hlen => faultless_append.mpr ⟨hfaultless, heq hlen⟩⟩

/-- Events that expose nothing leave nothing more to hide. -/
theorem after_plain (h : Undoes start len base events)
    (hplain : ∀ e ∈ first, e.Plain ∧ e.Quiet) : Undoes start len base (first ++ events) := by
  have hfirst : ∀ e ∈ first, e.Plain := fun e he => (hplain e he).1
  have hbase : Undoes start len ([] ++ base) events := h
  exact hbase.after_adds (.of_plain hfirst) (fun e he => (hplain e he).2)
    (faultless_of_plain hfirst)

/-- A page that is exposed by a fault is not among those that are hidden again. -/
theorem after_fault {e : Exposure} (h : Undoes start len base events) (hadds : Adds first [e])
    (hquiet : Quiet first) (hfaulty : ¬ Faultless first) (he : e.Within start len) :
    Undoes start len base (first ++ events) where
  quiet := quiet_append.mpr ⟨hquiet, h.quiet⟩
  hides hall := absurd (faultless_append.mp hall).1 hfaulty
  falls_short l l' others hl hrun := by
    obtain ⟨next, hnext, hrun⟩ := Ledger.run_append.mp hrun
    have hexposed : next.exposed.Perm (base ++ e :: others) := by
      rw [hadds.exposed_eq hnext]
      exact (hl.cons e).trans List.perm_middle.symm
    obtain ⟨hidden, own, hperm, hown, hle, -⟩ := h.falls_short next l' _ hexposed hrun
    -- `e` is one more that has to be hidden, while no more are hidden than before
    refine ⟨hidden, e :: own, hperm.trans List.perm_middle, List.forall_mem_cons.mpr ⟨he, hown⟩,
      Nat.le_succ_of_le hle, fun hlen => ?_⟩
    rw [List.length_cons] at hlen
    omega

/-- Pages are left exposed by a fault only. -/
theorem faultless_of_hidden (h : Undoes start len base events) {l l' : Ledger}
    {others : List Exposure} (hl : l.exposed.Perm (base ++ others))
    (hothers : ∀ e ∈ others, ¬ e.Within start len) (hrun : Ledger.Run l events l')
    (hl' : ∀ e ∈ l'.exposed, ¬ e.Within start len) :
    Faultless events ∧ l'.exposed.Perm others := by
  obtain ⟨hidden, own, hperm, hown, hle, heq⟩ := h.falls_short l l' others hl hrun
  obtain ⟨hlen, hleft⟩ := perm_of_none_left hperm hown hothers hle hl'
  exact ⟨heq hlen, hleft⟩

end Undoes

/-- The events undo what was exposed, and give the pages back then. -/
def Returns (start : VirtAddr) (len : UInt64) (base : List Exposure) (events : List Event) : Prop :=
  ∃ undo record tail, events = undo ++ .log record :: .unmapPages start len :: tail ∧
    Undoes start len base undo ∧ ∀ e ∈ tail, e.Plain ∧ e.Quiet

/-- Pages can be given back if there was no fault, and if they can there was none. -/
theorem Returns.settle {start : VirtAddr} {len : UInt64} {base : List Exposure}
    {events : List Event}
    (h : Returns start len base events) {l : Ledger} {others : List Exposure}
    (hl : l.exposed.Perm (base ++ others)) (hothers : ∀ e ∈ others, ¬ e.Within start len) :
    (Faultless events → ∃ l', Ledger.Run l events l') ∧
      ∀ l', Ledger.Run l events l' → Faultless events ∧ l'.exposed.Perm others := by
  obtain ⟨undo, record, tail, rfl, hundo, htail⟩ := h
  have hplain : ∀ e ∈ tail, e.Plain := fun e he => (htail e he).1
  have hadds := Adds.of_plain hplain
  constructor
  · intro hfaultless
    obtain ⟨next, hnext, hperm⟩ := hundo.hides (faultless_append.mp hfaultless).1 l others hl
    have hnone : ∀ e ∈ next.exposed, ¬ e.Within start len :=
      fun e he => hothers e (hperm.mem_iff.mp he)
    obtain ⟨l', hrun⟩ := hadds.exists_run next
    exact ⟨l', Ledger.run_append.mpr ⟨next, hnext, next, rfl, next, ⟨hnone, rfl⟩, hrun⟩⟩
  · -- that the pages can be given back says that none of them is exposed any more
    intro l' hrun
    obtain ⟨next, hnext, _, rfl, _, ⟨hnone, rfl⟩, hrest⟩ := Ledger.run_append.mp hrun
    obtain ⟨hfaultless, hperm⟩ := hundo.faultless_of_hidden hl hothers hnext hnone
    refine ⟨faultless_append.mpr ⟨hfaultless, ?_⟩, ?_⟩
    · exact List.forall_mem_cons.mpr ⟨id, List.forall_mem_cons.mpr ⟨id, faultless_of_plain hplain⟩⟩
    · rw [hadds.exposed_eq hrest]
      exact hperm

/-! ### Pages that are handed out -/

/-- Huge pages that were handed out together. -/
structure Lease where
  start : VirtAddr
  len : UInt64
  deriving DecidableEq

/-- Two leases have no address in common. -/
def Lease.Apart (a b : Lease) : Prop :=
  a.start.toNat + a.len.toNat ≤ b.start.toNat ∨ b.start.toNat + b.len.toNat ≤ a.start.toNat

instance (a b : Lease) : Decidable (a.Apart b) :=
  inferInstanceAs (Decidable (_ ∨ _))

namespace Event

/-- The leases after an event. -/
def lease (leases : List Lease) : Event → List Lease
  | .mapPages len (.ok start) => ⟨start, len⟩ :: leases
  | .unmapPages start len => leases.erase ⟨start, len⟩
  | _ => leases

/-- Pages that are handed out end at an address, and are not handed out already. -/
def Unaliased (leases : List Lease) : Event → Prop
  | .mapPages len (.ok start) =>
    start.toNat + len.toNat < UInt64.size ∧ ∀ other ∈ leases, Lease.Apart ⟨start, len⟩ other
  | _ => True

instance (leases : List Lease) : DecidablePred (Event.Unaliased leases)
  | .mapPages len (.ok start) =>
    inferInstanceAs (Decidable (start.toNat + len.toNat < UInt64.size ∧
      ∀ other ∈ leases, Lease.Apart ⟨start, len⟩ other))
  | .mapPages _ (.error _) => .isTrue trivial
  | .unmapPages _ _ => .isTrue trivial
  | .log _ => .isTrue trivial
  | .translate _ _ => .isTrue trivial
  | .mapBus _ _ _ _ _ => .isTrue trivial
  | .unmapBus _ _ _ _ _ => .isTrue trivial

end Event

/-- The leases after a sequence of events. -/
def outstanding (leases : List Lease) (events : List Event) : List Lease :=
  events.foldl Event.lease leases

/-- What a source of huge pages promises: pages that it hands out are not used for anything else
until they are given back. -/
def Unaliased : List Lease → List Event → Prop
  | _, [] => True
  | leases, event :: rest => event.Unaliased leases ∧ Unaliased (event.lease leases) rest

/-- Whether the promise was kept can be told from the journal. -/
def decideUnaliased :
    (leases : List Lease) → (events : List Event) → Decidable (Unaliased leases events)
  | _, [] => .isTrue trivial
  | leases, event :: rest =>
    @instDecidableAnd _ _ inferInstance (decideUnaliased (event.lease leases) rest)

instance (leases : List Lease) : DecidablePred (Unaliased leases) := decideUnaliased leases

theorem outstanding_append (leases : List Lease) (first second : List Event) :
    outstanding leases (first ++ second) = outstanding (outstanding leases first) second :=
  List.foldl_append

theorem unaliased_append {leases : List Lease} {first second : List Event} :
    Unaliased leases (first ++ second) ↔
      Unaliased leases first ∧ Unaliased (outstanding leases first) second := by
  induction first generalizing leases with
  | nil => simp [Unaliased, outstanding]
  | cons event rest ih =>
    rw [List.cons_append, Unaliased, Unaliased, ih, and_assoc]
    rfl

theorem outstanding_of_quiet {events : List Event} (h : Quiet events) (leases : List Lease) :
    outstanding leases events = leases := by
  induction events with
  | nil => rfl
  | cons event rest ih =>
    obtain ⟨hevent, hrest⟩ := List.forall_mem_cons.mp h
    have hsame : event.lease leases = leases := by
      cases event with
      | mapPages _ _ => exact hevent.elim
      | unmapPages _ _ => exact hevent.elim
      | _ => rfl
    rw [outstanding, List.foldl_cons, hsame]
    exact ih hrest

theorem Returns.outstanding {start : VirtAddr} {len : UInt64} {base : List Exposure}
    {events : List Event} (h : Returns start len base events) (leases : List Lease) :
    outstanding leases events = leases.erase ⟨start, len⟩ := by
  obtain ⟨undo, record, tail, rfl, hundo, htail⟩ := h
  rw [outstanding_append, outstanding_of_quiet hundo.quiet]
  exact outstanding_of_quiet (fun e he => (htail e he).2) _

/-- Leases that end at an address and have no address in common. -/
def Separate (leases : List Lease) : Prop :=
  (∀ lease ∈ leases, lease.start.toNat + lease.len.toNat < UInt64.size) ∧
    leases.Pairwise Lease.Apart

theorem Separate.sublist {leases left : List Lease} (h : Separate leases)
    (hsublist : left.Sublist leases) : Separate left :=
  ⟨fun lease hlease => h.1 lease (hsublist.subset hlease), h.2.sublist hsublist⟩

/-- As long as the source of huge pages keeps its promise, leases have no address in common. -/
theorem Separate.outstanding {leases : List Lease} (h : Separate leases) {events : List Event}
    (hunaliased : Unaliased leases events) : Separate (outstanding leases events) := by
  induction events generalizing leases with
  | nil => exact h
  | cons event rest ih =>
    obtain ⟨hevent, hrest⟩ := hunaliased
    refine ih ?_ hrest
    cases event with
    | mapPages len answer =>
      cases answer with
      | error _ => exact h
      | ok start =>
        obtain ⟨hfit, hapart⟩ := hevent
        exact ⟨List.forall_mem_cons.mpr ⟨hfit, h.1⟩, List.pairwise_cons.mpr ⟨hapart, h.2⟩⟩
    | unmapPages start len => exact h.sublist List.erase_sublist
    | _ => exact h

theorem Lease.Apart.symm {a b : Lease} (h : a.Apart b) : b.Apart a := Or.symm h

/-- A page of one lease is not one of another. -/
theorem Lease.Apart.not_within {a b : Lease} (h : a.Apart b) {e : Exposure}
    (he : e.Within b.start b.len) : ¬ e.Within a.start a.len := by
  intro hother
  rw [Exposure.Within] at he hother
  rw [Lease.Apart] at h
  omega

end HugePool
