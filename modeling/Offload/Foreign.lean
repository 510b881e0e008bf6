/-
**Runs for foreign callers.**

A caller in another language passes an environment by reference and gets a flat record back.  No
panic crosses that boundary: it is turned into a failure, after the session has released its memory.

Main definitions:

* `Offload.Foreign.notRun` — the entry for the time of a phase that did not run;
* `Offload.Foreign.Record` — the record;
* `Offload.Foreign.Record.ofReport`, `Offload.Foreign.Record.rejected` — the record of a run, and of
  a call that has no run to report;
* `Offload.Foreign.call` — a whole call.
-/

import Offload.Run

set_option autoImplicit false

namespace Offload.Foreign

/-- The entry for the time of a phase that did not run: the largest machine word. -/
def notRun : Nat := Word.max

/-- What a foreign caller gets. -/
structure Record (ρ : Type) where
  /-- Zero for success, minus one if there was no device, else the status of the first failure. -/
  lastError : Int32
  /-- The time of each phase in nanoseconds. -/
  setupNs : Nat
  prepareEnvNs : Nat
  kernelNs : Nat
  freeMemoryNs : Nat
  /-- The results; without any there is no buffer. -/
  buffer : Option (List ρ)
  /-- The number of results in the buffer. -/
  resultLength : Nat
deriving DecidableEq, Repr

namespace Record

variable {ρ : Type}

/-- The entry for the time of a phase: its nanoseconds if they fit in a machine word. -/
def slot : Option Duration → Nat
  | none => notRun
  | some d => if d.toNanos < Word.bound then d.toNanos else notRun - 1

/-- The results that the caller can read: as many as the record says, from the buffer. -/
def output (r : Record ρ) : List ρ :=
  match r.buffer with
  | none => []
  | some buffer => buffer.take r.resultLength

/-- The record of a run. -/
def ofReport (r : Report ρ) : Record ρ :=
  let results := r.output.filter fun output => !output.isEmpty
  { lastError := r.error.raw
    setupNs := slot (r.timings.get .setup)
    prepareEnvNs := slot (r.timings.get .prepareEnv)
    kernelNs := slot (r.timings.get .kernel)
    freeMemoryNs := slot (r.timings.get .freeMemory)
    buffer := results
    resultLength := (results.map List.length).getD 0 }

/-- The record of a call that has no run to report. -/
def rejected (e : Failure) : Record ρ where
  lastError := e.status.raw
  setupNs := notRun
  prepareEnvNs := notRun
  kernelNs := notRun
  freeMemoryNs := notRun
  buffer := none
  resultLength := 0

end Record

/-- Runs a job for a foreign caller, who may pass no environment. -/
def call {δ τ ε σ ρ : Type} [Device δ] (config : Config) (watch : Stopwatch) (job : Job τ ε σ ρ) :
    Option ε → Act (δ × τ) (Record ρ)
  | none => pure (.rejected (.invalidInput .nullEnvironment))
  | some env => do
      let outcome ← (run config watch job env).observe
      match outcome with
      | .ok report => pure (.ofReport report)
      | .error e => pure (.rejected e)
      | .panic p => do
          let e := Failure.panicked p.message
          Act.note .error "exported session aborted" (.ok [.plain "error" e.message])
          pure (.rejected e)

end Offload.Foreign
