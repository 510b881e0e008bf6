/-
**Kernel units.**

A kernel unit copies one environment in, runs one kernel on it and has one typed result array.  The
kernel gets the address of the environment and the address of the result.  The copy of the
environment is released before the unit returns; the result stays with the session.

Main definitions:

* `Offload.KernelUnit` — a kernel with its geometry and the number of its results;
* `Offload.KernelUnit.launch` — runs it and leaves the results on the device;
* `Offload.KernelUnit.invoke` — runs it and copies the results back.
-/

import Offload.Session.Program

set_option autoImplicit false

namespace Offload

/-- A kernel with an environment of type `ε` and results of type `ρ`. -/
structure KernelUnit (ε ρ : Type) where
  kernel : String
  geometry : Geometry
  /-- The number of results. -/
  count : Nat
deriving DecidableEq, Repr

namespace KernelUnit

variable {τ ε ρ : Type} [Pod ε] [Pod ρ]

/-- Runs the kernel and leaves its results on the device. -/
def launch (u : KernelUnit ε ρ) (env : ε) : Program τ (Slice ρ) := do
  if u.count = 0 then .fail (.invalidInput (.emptyResult u.kernel))
  else do
    let input ← Program.upload env
    let output ← Program.allocSlice ρ u.count
    Program.note .debug "invocation buffers ready"
      [.text "kernel" u.kernel, .number "env_bytes" (Pod.width ε),
        .number "out_bytes" (u.count * Pod.width ρ)]
    Program.launch u.kernel u.geometry [.pointer input.address, .pointer output.address]
    Program.synchronize
    Program.free input.address
    pure output

/-- Runs the kernel and copies its results back. -/
def invoke (u : KernelUnit ε ρ) (env : ε) : Program τ (List ρ) := do
  let output ← u.launch env
  Program.download output

end KernelUnit

end Offload
