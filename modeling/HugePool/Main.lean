import HugePool.Soak.Report

/-!
# The soak check as a command
-/

/-- Runs the soak check with the options in the arguments, and writes its log to standard error. -/
def main (arguments : List String) : IO UInt32 := do
  match HugePool.Soak.Options.ofArguments? arguments with
  | none =>
    IO.eprintln "usage: dma-pool-check [--heap] [--alignment N] [--stride N] [--rounds N]"
    IO.eprintln "         [--device N] [--log-level off|error|warn|info|debug|trace]"
    return HugePool.Soak.usageExitCode
  | some options =>
    let report := HugePool.Soak.run options
    for line in report.lines options.level do
      IO.eprintln line
    return report.exitCode
