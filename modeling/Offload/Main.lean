/-
**The program.**

Reads the arguments and the environment, runs the command and prints what it leaves.  The emulated
device works in no time of its own, so the stopwatch stands still.
-/

import Offload.Command

set_option autoImplicit false

namespace Offload

/-- The environment variables that the command looks at. -/
def commandVariables : List String :=
  ["HARNESS_DEVICE", "CUDA_MEM_CHECK", "HARNESS_MEM_HEADROOM_MB", "HARNESS_DEBUG", "RUST_LOG"]

end Offload

def main (args : List String) : IO UInt32 := do
  let mut settings : List (String × String) := []
  for name in Offload.commandVariables do
    if let some value ← IO.getEnv name then
      settings := (name, value) :: settings
  let env : Offload.Env := fun name => settings.lookup name
  let result := Offload.Command.run (fun _ => 0) Offload.Verbosity.ofText? args env
  for line in result.stderr do
    IO.eprintln line
  IO.print result.stdout
  return UInt32.ofNat result.exit
