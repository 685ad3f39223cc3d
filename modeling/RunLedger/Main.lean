import RunLedger.Command.Run

/-!
# The program

Runs the command line as a process.  A process begins with an empty working directory and keeps its
ledgers as long as it runs.  No command records a time, so the clock may stand at its first instant.
-/

open RunLedger

/-- Runs the command line, prints what it prints, and exits with its status. -/
def main (arguments : List String) : IO UInt32 := do
  let (outcome, _) := Command.run [] Instant.first.toUtc arguments .empty
  IO.print outcome.out
  IO.eprint outcome.err
  match outcome.failure with
  | some f => IO.eprintln (f.kind.name ++ ": " ++ f.message)
  | none => pure ()
  pure (UInt32.ofNat outcome.status)
