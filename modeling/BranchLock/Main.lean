import BranchLock.Tool.Program

/-!
# The tool's entry point

Runs `branchtool` once on the process's arguments, in a workspace of its own that starts empty
and lives as long as the run: what it prints goes to standard output, and when the run fails
its reason goes to standard error and the exit status is one.
-/

open BranchLock

/-- Runs the tool on the command line. -/
def main (args : List String) : IO UInt32 := do
  let (_, effect) := Tool.run "Lean 4" args {}
  let stdout ← IO.getStdout
  stdout.putStr effect.stdout
  stdout.flush
  match effect.failure with
  | some e =>
    let stderr ← IO.getStderr
    stderr.putStrLn (Failure.message e)
    return 1
  | none => return 0
