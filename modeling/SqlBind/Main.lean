/-
The command line program: it prints what its command answers, or the fault on the
error stream.
-/
import SqlBind.CommandLine.Run

open SqlBind CommandLine in
/-- Carries out the command that the arguments make up. -/
def main (args : List String) : IO UInt32 := do
  match run args with
  | .ok text =>
    (← IO.getStdout).putStr text
    return 0
  | .error fault =>
    (← IO.getStderr).putStrLn fault.message
    return 1
