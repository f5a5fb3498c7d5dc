import HugePool.Platform.Reserved
import HugePool.Platform.Heap
import HugePool.Soak.Basic

/-!
# Reports of the soak check

A run of the check ends in an exit code: zero when all is well, one when something is wrong, and the
codes of a process that panicked or aborted.  It writes the records of its log up to the level that
was asked for, each on a line of its own.
-/

namespace HugePool.Soak

/-- What a run of the check shows. -/
structure Report where
  exitCode : UInt32
  records : List LogRecord

/-- The exit code for wrong arguments. -/
def usageExitCode : UInt32 := 2

/-- The report on a run. -/
def Report.ofTrace {σ : Type} (t : Trace σ CheckError Unit) : Report :=
  let records := t.events.filterMap Event.record?
  let closing (level : LogLevel) (message : String) : List LogRecord :=
    records ++ [⟨level, "dma_pool_check", message⟩]
  match t.outcome with
  | .ok _ => ⟨0, closing .info "all checks passed"⟩
  | .error cause => ⟨1, closing .error cause.message⟩
  | .panic _ => ⟨101, records⟩
  | .abort => ⟨134, records⟩

/-- A record is written when its level is among those asked for. -/
def isWritten (level : Option LogLevel) (record : LogRecord) : Bool :=
  match level with
  | none => false
  | some last => record.level.rank ≤ last.rank

/-- The line of a record. -/
def recordLine (record : LogRecord) : String :=
  "[" ++ record.level.name ++ "] " ++ record.origin ++ ": " ++ record.message

/-- The lines of a report. -/
def Report.lines (r : Report) (level : Option LogLevel) : List String :=
  (r.records.filter (isWritten level)).map recordLine

/-- Runs the check on heap memory, or on a machine without reserved huge pages. -/
def run (o : Options) : Report :=
  if o.heap then Report.ofTrace ((check ⟨Heap.platform, none⟩ o).run {})
  else Report.ofTrace ((check ⟨ReservedPages.platform (PageMap.system .missing), none⟩ o).run ())

end HugePool.Soak
