/-
**Running a job.**

A run takes a job through one complete session: the device is selected and reset, then the job
prepares its data, launches its kernels and copies its results back, and in the end everything that
the session still owns is released.  Failures are data: the first one is kept in the report, later
phases are skipped, and the release takes place all the same.

Main definitions:

* `Offload.Job` — the three programs that a caller supplies;
* `Offload.Report` — what a run reports, with `recordFailure` and `output?`;
* `Offload.Run.advance` — one move from stage to stage;
* `Offload.Run.phases` — the three programs of a job in an open session;
* `Offload.run` — the whole run.
-/

import Offload.Session.Program
import Offload.Timings

set_option autoImplicit false

namespace Offload

/-- The caller's part of a run.  It gets an environment of type `ε`, hands data of type `σ` from one
program to the next, keeps host data of type `τ`, and gives results of type `ρ`. -/
structure Job (τ ε σ ρ : Type) where
  /-- Brings the environment to the device. -/
  prepare : ε → Program τ σ
  /-- Runs the kernels. -/
  launch : σ → Program τ σ
  /-- Brings the results to the host. -/
  copyBack : σ → Program τ (List ρ)

/-- What a run reports. -/
structure Report (ρ : Type) where
  /-- The status of the first failure. -/
  error : Status := .success
  /-- The words for the first failure. -/
  failure : Option String := none
  timings : Timings := {}
  /-- The number of allocations that the session still owned at its end. -/
  released : Nat := 0
  /-- The results, once they are on the host. -/
  output : Option (List ρ) := none
  finalStage : Stage := .idle
deriving DecidableEq, Repr

namespace Report

variable {ρ : Type}

/-- Whether nothing failed. -/
def isSuccess (r : Report ρ) : Bool :=
  r.error.isSuccess

/-- Keeps a failure, unless there was one before. -/
def recordFailure (r : Report ρ) (e : Failure) : Report ρ :=
  if r.error.isSuccess then { r with error := e.status, failure := some e.message } else r

/-- Sets the duration of a phase, in nanoseconds. -/
def time (r : Report ρ) (p : Phase) (nanos : UInt64) : Report ρ :=
  { r with timings := r.timings.record p (Duration.ofWord nanos) }

/-- The results of a run that did not fail, or its status. -/
def output? (r : Report ρ) : Except Status (List ρ) :=
  match r.error with
  | .success => .ok (r.output.getD [])
  | status => .error status

end Report

namespace Run

variable {δ τ ε σ ρ α : Type}

/-- Moves from one stage to the next. -/
def advance (source target : Stage) : Act α Stage := do
  if source.canAdvance target then
    Act.note .debug "session state" (.ok [.plain "from" source.name, .plain "to" target.name])
    pure target
  else Act.panic (.illegalTransition source target)

/-- Records that a part of a job failed. -/
def phaseFailed (field : Field) (e : Failure) : Act α Unit :=
  Act.note .warn "phase failed" (.ok [field, .plain "error" e.message])

variable [Device δ]

/-- The three programs of a job.  Each runs only if those before it succeeded.  The result is the
report so far and the stage that was reached. -/
def phases (watch : Stopwatch) (job : Job τ ε σ ρ) (env : ε) (report : Report ρ)
    (stage : Stage) : Act (Workspace δ τ) (Report ρ × Stage) := do
  let stage ← advance stage .preparing
  let prepared ← (job.prepare env).perform.attempt
  let report := report.time .prepareEnv (watch .prepareEnv)
  match prepared with
  | .error e => do
      phaseFailed (.plain "phase" Phase.prepareEnv.text) e
      pure (report.recordFailure e, stage)
  | .ok staged => do
      let stage ← advance stage .executing
      let launched ← (job.launch staged).perform.attempt
      let report := report.time .kernel (watch .kernel)
      match launched with
      | .error e => do
          phaseFailed (.plain "phase" Phase.kernel.text) e
          pure (report.recordFailure e, stage)
      | .ok staged => do
          let stage ← advance stage .copyingBack
          let copied ← (job.copyBack staged).perform.attempt
          match copied with
          | .error e => do
              phaseFailed (.text "phase" "copy_back") e
              pure (report.recordFailure e, stage)
          | .ok output => pure ({ report with output := some output }, stage)

/-- The part of a run inside an open session: the programs of the job, then the release of
everything that is left. -/
def session (watch : Stopwatch) (job : Job τ ε σ ρ) (env : ε) (report : Report ρ)
    (stage : Stage) : Act (Workspace δ τ) (Report ρ × Stage) := do
  let (report, stage) ← phases watch job env report stage
  let stage ← advance stage .tearingDown
  let teardown ← Workspace.onSession Session.teardown
  let report := { report.time .freeMemory (watch .freeMemory) with
    released := teardown.released.length }
  pure (match teardown.firstError with
    | some e => report.recordFailure e
    | none => report, stage)

/-- A run that ends during setup. -/
def giveUp (message : String) (e : Failure) (stage : Stage) : Act α (Report ρ) := do
  Act.note .warn message (.ok [.plain "error" e.message])
  let stage ← advance stage .done
  pure { Report.recordFailure {} e with finalStage := stage }

/-- A device call during setup. -/
def onDevice (call : Act δ α) : Act (δ × τ) α :=
  Act.onFirst call

/-- The last event of a run. -/
def finished (report : Report ρ) : Act α Unit :=
  Act.note .info "session finished" do
    let total ← report.timings.total
    pure [.plain "error" report.error.text, .number "released" report.released,
      .number "total_us" (total.toMicros % Word.bound)]

/-- A run without the span around it. -/
def body (config : Config) (watch : Stopwatch) (job : Job τ ε σ ρ) (env : ε) :
    Act (δ × τ) (Report ρ) := do
  let stage ← advance .idle .initializing
  let selected ← (onDevice (Device.select config.deviceOrdinal)).attempt
  match selected with
  | .error e =>
      giveUp "device selection failed" (e.asUnavailable config.deviceOrdinal) stage
  | .ok () => do
      let cleared ← (onDevice Device.reset).attempt
      match cleared with
      | .error e => giveUp "device reset failed" e stage
      | .ok () => do
          let report := ({} : Report ρ).time .setup (watch .setup)
          let (report, stage) ← Workspace.scope config (session watch job env report stage)
          let stage ← advance stage .done
          let report := { report with finalStage := stage }
          finished report
          pure report

end Run

/-- Runs a job on a device.  The stopwatch tells how long each phase takes. -/
def run {δ τ ε σ ρ : Type} [Device δ] (config : Config) (watch : Stopwatch)
    (job : Job τ ε σ ρ) (env : ε) : Act (δ × τ) (Report ρ) := fun v s =>
  let span : Span := ⟨"session", [.text "device" (Device.name s.1),
    .number "ordinal" config.deviceOrdinal.toNat]⟩
  Act.within span (Run.body config watch job env) v s

end Offload
