import SlotDispatch.CommandLine.Execute
import Std.Time

/-!
# The program

The arguments, the environment and the clock are read, and what `CommandLine.Outcome.of` makes of
them is printed.
-/

namespace SlotDispatch

/-- What the local clock shows. -/
def Native.Clock.now : IO Native.Clock := do
  let now ← Std.Time.DateTime.now
  return {
    hour := UInt32.ofNat now.hour.val.toNat
    minute := UInt32.ofNat now.minute.val.toNat
    second := UInt32.ofNat now.second.val.toNat
    stamp := now.toISO8601String }

end SlotDispatch

/-- Runs the program. -/
def main (arguments : List String) : IO UInt32 := do
  let program := SlotDispatch.CommandLine.programName (← IO.appPath).toString
  let environment ← IO.getEnv "VTLAB_HEAP_LIMIT"
  let clock ← SlotDispatch.Native.Clock.now
  let outcome := SlotDispatch.CommandLine.Outcome.of program arguments environment clock
  let output ← IO.getStdout
  output.write ⟨outcome.output.toArray⟩
  output.flush
  (← IO.getStderr).putStr outcome.errors
  return outcome.status
