/-
**What a run reports.**

A run does not fail: as long as nothing panics, it returns a report, whatever goes wrong on the way.
The report tells the first failure, in the order of the steps of the run, and has a duration for
each phase that was entered.  A report that has a failure keeps it, since its status is then not
success anymore; no status of a failure is, not even the one of a driver that reports zero.

The proof shows that a run reports its course (`Run.run_eq_course`): the stages are entered in an
order that the stage machine allows, so no move between them panics, and the durations, each of them
a machine word of nanoseconds, can be added up for the last event.

A device that cannot be selected is reported as unavailable.  If it says so itself it is taken at
its word, also about its number; every other failure of the selection is reported under the number
that was asked for.

Main definitions:

* `Offload.Course.report` — the report that a course asks for;
* `Offload.Run.Taken.noted` — what the programs of a job add to a report.

Main results:

* `Offload.Run.phases_taken` — the phases of a run follow its course;
* `Offload.Run.run_eq_course` — **a run reports its course**;
* `Offload.Run.run_reports_first_failure` — **what a run reports, and which parts of it are begun**.
-/

import Offload.Proofs.Steps
import Offload.Proofs.Emulated.Operations
import Offload.Proofs.TimingRecords

set_option autoImplicit false

namespace Offload

/-! ### Durations -/

/-- A number of nanoseconds in a machine word is kept. -/
theorem Duration.toNanos_ofWord (n : UInt64) : (ofWord n).toNanos = n.toNat := by
  have hlt : n.toNat < Word.bound := n.toNat_lt_size
  have hdiv : n.toNat / nanosPerSec < Word.bound := Nat.lt_of_le_of_lt (Nat.div_le_self _ _) hlt
  have hsecs : (UInt64.ofNat (n.toNat / nanosPerSec)).toNat = n.toNat / nanosPerSec := by
    rw [UInt64.toNat_ofNat']
    exact Nat.mod_eq_of_lt hdiv
  unfold ofWord ofNanos?
  rw [if_pos hdiv]
  simp only [Option.getD_some, toNanos, hsecs, toNat_ofNat_rest]
  rw [Nat.mul_comm]
  exact Nat.div_add_mod _ _

theorem Word.total_le {l : List Nat} {n : Nat} (h : ∀ a ∈ l, a ≤ n) : total l ≤ l.length * n := by
  induction l with
  | nil => exact Nat.zero_le _
  | cons a rest ih =>
      have hfirst := h a List.mem_cons_self
      have hrest := ih fun b hb => h b (List.mem_cons_of_mem _ hb)
      rw [total_cons, List.length_cons, Nat.add_mul, Nat.one_mul]
      omega

/-- Durations of phases that were measured in machine words can be added up. -/
theorem Timings.total_eq_ok {t : Timings} (h : ∀ p d, t.get p = some d → d.toNanos < Word.bound) :
    ∃ d, t.total = .ok d := by
  have hsum : Word.total (Phase.all.map t.nanosOf) ≤
      (Phase.all.map t.nanosOf).length * Word.bound := by
    refine Word.total_le fun n hn => ?_
    obtain ⟨p, -, rfl⟩ := List.mem_map.1 hn
    unfold nanosOf
    cases hget : t.get p with
    | none => exact Nat.zero_le _
    | some d => exact Nat.le_of_lt (h p d hget)
  -- four machine words of nanoseconds are far fewer seconds than a word holds
  have hscale : 4 * Word.bound < Duration.nanosPerSec * Word.bound :=
    Nat.mul_lt_mul_of_pos_right (by decide) (by decide)
  have hfits := Nat.div_lt_of_lt_mul (Nat.lt_of_le_of_lt hsum hscale)
  obtain ⟨d, hok, -⟩ := t.exact_total.fits hfits
  exact ⟨d, hok⟩

/-! ### The report of a course -/

namespace Course

variable {δ τ ρ : Type}

/-- The duration of a phase that is timed once a part has succeeded. -/
def timed (watch : Stopwatch) (c : Course δ τ ρ) (phase : Phase) (p : Part) : Option Duration :=
  if c.succeeded p then some (Duration.ofWord (watch phase)) else none

/-- The report that a course asks for. -/
def report (watch : Stopwatch) (c : Course δ τ ρ) : Report ρ where
  error := (c.failure?.map Failure.status).getD .success
  failure := c.failure?.map Failure.message
  timings := {
    setup := c.timed watch .setup .reset
    prepareEnv := c.timed watch .prepareEnv .reset
    kernel := c.timed watch .kernel .prepare
    freeMemory := c.timed watch .freeMemory .reset }
  released := c.frees.length
  output := c.output
  finalStage := .done

theorem timed_isSome_iff {watch : Stopwatch} {c : Course δ τ ρ} {phase : Phase} {p : Part} :
    (c.timed watch phase p).isSome = true ↔ c.succeeded p = true := by
  unfold timed
  split
  · rename_i h
    simp [h]
  · rename_i h
    simp [h]

theorem timed_lt {watch : Stopwatch} {c : Course δ τ ρ} {phase : Phase} {p : Part} {d : Duration}
    (h : c.timed watch phase p = some d) : d.toNanos < Word.bound := by
  unfold timed at h
  split at h
  · cases h
    rw [Duration.toNanos_ofWord]
    exact (watch phase).toNat_lt_size
  · cases h

/-- The durations in a report can be added up. -/
theorem report_total (watch : Stopwatch) (c : Course δ τ ρ) :
    ∃ d, (c.report watch).timings.total = .ok d := by
  refine Timings.total_eq_ok fun p d h => ?_
  cases p with
  | setup => exact timed_lt h
  | prepareEnv => exact timed_lt h
  | kernel => exact timed_lt h
  | freeMemory => exact timed_lt h

end Course

namespace Run

variable {δ τ ε σ ρ α : Type} [Device δ]

/-! ### The release -/

theorem firstRefusal_cons (address : Address) (x : Outcome Unit)
    (frees : List (Address × Outcome Unit)) :
    firstRefusal ((address, x) :: frees) = x.failure?.or (firstRefusal frees) := by
  cases x <;> rfl

theorem releaseOutcome_failure? (frees : List (Address × Outcome Unit)) :
    (releaseOutcome frees).failure? = firstRefusal frees := by
  unfold releaseOutcome
  cases firstRefusal frees <;> rfl

theorem length_freeEach (v : Verbosity) (l : List Address) (d : δ) :
    (freeEach v l d).1.length = l.length := by
  induction l generalizing d with
  | nil => rfl
  | cons a rest ih => exact congrArg (· + 1) (ih _)

/-- Releasing frees one address after the other and reports the first refusal. -/
theorem releaseEach_eq (hfree : ∀ (a : Address) (v : Verbosity) (d : δ),
      (Device.free a v d).outcome.returns = true)
    (l : List Allocation) (v : Verbosity) (s : Session δ) :
    (Session.releaseEach l v s).outcome = .ok ⟨l.map Allocation.address,
        firstRefusal (freeEach v (l.map Allocation.address) s.device).1⟩ ∧
      (Session.releaseEach l v s).state.device =
        (freeEach v (l.map Allocation.address) s.device).2 := by
  induction l generalizing s with
  | nil => exact ⟨rfl, rfl⟩
  | cons a rest ih =>
      obtain ⟨hstate, houtcome⟩ := releaseEach_cons (hfree a.address v s.device) rest
      obtain ⟨hreport, hdevice⟩ := ih (afterFree a.address v s)
      rw [hstate, houtcome, hreport, hdevice]
      refine ⟨?_, rfl⟩
      simp only [List.map_cons, freeEach, firstRefusal_cons]
      rfl

theorem teardown_frees (hfree : ∀ (a : Address) (v : Verbosity) (d : δ),
      (Device.free a v d).outcome.returns = true) (v : Verbosity) (s : Session δ) :
    (Session.teardown v s).outcome = .ok ⟨s.tracked.map Allocation.address,
        firstRefusal (freeEach v (s.tracked.map Allocation.address) s.device).1⟩ ∧
      (Session.teardown v s).state.device =
        (freeEach v (s.tracked.map Allocation.address) s.device).2 := by
  rw [teardown_eq]
  exact releaseEach_eq hfree s.tracked v { s with tracked := [] }

/-! ### The programs -/

/-- The failure of the first program that fails. -/
def Taken.failure? (t : Taken δ τ ρ) : Option Failure :=
  t.steps.findSome? fun step => step.2.failure?

/-- Whether the job got past its first program. -/
def Taken.isPrepared (t : Taken δ τ ρ) : Bool :=
  t.steps.any fun step => step.1 = .prepare && step.2.isOk

/-- A report with a failure, if there is one. -/
def failing (report : Report ρ) : Option Failure → Report ρ
  | some e => report.recordFailure e
  | none => report

/-- A report with what the programs of a job add to it. -/
def Taken.noted (watch : Stopwatch) (report : Report ρ) (t : Taken δ τ ρ) : Report ρ :=
  let report := report.time .prepareEnv (watch .prepareEnv)
  let report := if t.isPrepared then report.time .kernel (watch .kernel) else report
  failing { report with output := t.output } t.failure?

theorem setOutput_none {report : Report ρ} (h : report.output = none) :
    { report with output := none } = report := by
  cases report
  cases h
  rfl

/-- **The phases of a run follow its course**: they end where the programs leave the workspace, in a
stage from which the session can be closed, and with a report of the first failure. -/
theorem phases_taken {job : Job τ ε σ ρ} {env : ε} {v : Verbosity} {w : Workspace δ τ}
    (hreturns : ((job.script env).perform v w).outcome.returns = true) (watch : Stopwatch)
    {report : Report ρ} (houtput : report.output = none) :
    ∃ stage : Stage, stage.canAdvance .tearingDown = true ∧
      (phases watch job env report .initializing v w).outcome =
        .ok ((taken job env v w).noted watch report, stage) ∧
      (phases watch job env report .initializing v w).state = (taken job env v w).workspace := by
  have hprepared : (report.time .prepareEnv (watch .prepareEnv)).output = none := houtput
  have hlaunched : ((report.time .prepareEnv (watch .prepareEnv)).time .kernel
      (watch .kernel)).output = none := houtput
  rw [phases_eq]
  rw [perform_script] at hreturns
  unfold taken
  -- phases, script and course branch on the same programs; the script excludes a panic of each
  cases hprepare : ((job.prepare env).perform v w).outcome with
  | panic p =>
      rw [Act.bind_of_panic hprepare] at hreturns
      cases hreturns
  | error e =>
      refine ⟨.preparing, rfl, ?_, ?_⟩
      · rw [(phase_of_error (by rfl) hprepare).1, Taken.first_of_error hprepare]
        exact congrArg (fun r : Report ρ => Outcome.ok (r.recordFailure e, Stage.preparing))
          (setOutput_none hprepared).symm
      · rw [(phase_of_error (by rfl) hprepare).2, Taken.first_of_error hprepare]
  | ok staged =>
      rw [Act.bind_of_ok hprepare, Step.after_outcome] at hreturns
      rw [(phase_of_ok (by rfl) hprepare).1, (phase_of_ok (by rfl) hprepare).2,
        Taken.first_of_ok hprepare]
      generalize ((job.prepare env).perform v w).state = w at hreturns
      cases hlaunch : ((job.launch staged).perform v w).outcome with
      | panic p =>
          rw [Act.bind_of_panic hlaunch] at hreturns
          cases hreturns
      | error e =>
          refine ⟨.executing, rfl, ?_, ?_⟩
          · rw [(phase_of_error (by rfl) hlaunch).1, Taken.first_of_error hlaunch]
            exact congrArg (fun r : Report ρ => Outcome.ok (r.recordFailure e, Stage.executing))
              (setOutput_none hlaunched).symm
          · rw [(phase_of_error (by rfl) hlaunch).2, Taken.first_of_error hlaunch]
      | ok staged =>
          rw [Act.bind_of_ok hlaunch, Step.after_outcome] at hreturns
          rw [(phase_of_ok (by rfl) hlaunch).1, (phase_of_ok (by rfl) hlaunch).2,
            Taken.first_of_ok hlaunch]
          generalize ((job.launch _).perform v w).state = w at hreturns
          refine ⟨.copyingBack, rfl, ?_⟩
          cases hcopy : ((job.copyBack staged).perform v w).outcome with
          | panic p =>
              rw [hcopy] at hreturns
              cases hreturns
          | error e =>
              rw [(phase_of_error (by rfl) hcopy).1, (phase_of_error (by rfl) hcopy).2,
                Taken.first_of_error hcopy]
              refine ⟨?_, rfl⟩
              exact congrArg
                (fun r : Report ρ => Outcome.ok (r.recordFailure e, Stage.copyingBack))
                (setOutput_none hlaunched).symm
          | ok output =>
              rw [(phase_of_ok (by rfl) hcopy).1, (phase_of_ok (by rfl) hcopy).2,
                Taken.first_of_ok hcopy]
              exact ⟨rfl, rfl⟩

/-! ### The end of a run -/

/-- A session that can be closed is closed by its orderly end. -/
theorem closing_of_released (watch : Stopwatch) (report : Report ρ) {stage : Stage} {v : Verbosity}
    {w : Workspace δ τ} {teardown : Teardown} (h : stage.canAdvance .tearingDown = true)
    (hteardown : (Session.teardown v w.session).outcome = .ok teardown) :
    (closing watch report stage v w).outcome =
        .ok (settled watch report teardown, .tearingDown) ∧
      (closing watch report stage v w).state =
        { w with session := (Session.teardown v w.session).state } := by
  have hcall : (Workspace.onSession Session.teardown v w).outcome = .ok teardown := hteardown
  unfold closing
  rw [Act.bind_of_ok (advance_outcome h v w), advance_state, Step.after_outcome, Step.after_state,
    Act.bind_of_ok hcall]
  exact ⟨rfl, rfl⟩

/-- A session that owns nothing at the end of its action ends as the action does. -/
theorem scope_of_released {config : Config} {x : Act (Workspace δ τ) α} {v : Verbosity} {s : δ × τ}
    {a : α} (hx : (x v ⟨Session.start s.1 config, s.2⟩).outcome = .ok a)
    (htracked : (x v ⟨Session.start s.1 config, s.2⟩).state.session.tracked = []) :
    (Workspace.scope config x v s).outcome = .ok a := by
  simp only [Workspace.scope, hx, (abandon_of_empty htracked v).2]

/-- The part of a run inside a session: the programs, then the release. -/
theorem session_of_returns {job : Job τ ε σ ρ} {env : ε} {v : Verbosity} {w : Workspace δ τ}
    (hreturns : ((job.script env).perform v w).outcome.returns = true)
    (hfree : ∀ (a : Address) (v : Verbosity) (d : δ), (Device.free a v d).outcome.returns = true)
    (watch : Stopwatch) {report : Report ρ} (houtput : report.output = none) :
    let left := taken job env v w
    let tracked := left.workspace.session.tracked.map Allocation.address
    (session watch job env report .initializing v w).outcome =
        .ok (settled watch (left.noted watch report)
          ⟨tracked, firstRefusal (freeEach v tracked left.workspace.session.device).1⟩,
          .tearingDown) ∧
      (session watch job env report .initializing v w).state.session.tracked = [] := by
  intro left tracked
  obtain ⟨stage, hstage, houtcome, hstate⟩ := phases_taken hreturns watch houtput
  have hteardown := (teardown_frees hfree v left.workspace.session).1
  obtain ⟨hclosing, hclosed⟩ := closing_of_released watch (left.noted watch report) hstage
    hteardown
  rw [session_eq, Act.bind_of_ok houtcome, Step.after_outcome, Step.after_state, hstate]
  refine ⟨hclosing, ?_⟩
  rw [hclosed]
  exact teardown_tracked v left.workspace.session

@[simp] theorem isSuccess_status (e : Failure) : e.status.isSuccess = false := by
  cases e <;> rfl

@[simp] theorem isSuccess_success : Status.success.isSuccess = true := rfl

/-- What the programs and the release add to a report is what the course of the run asks for. -/
theorem settled_noted {config : Config} {job : Job τ ε σ ρ} {env : ε} {v : Verbosity} {s : δ × τ}
    (h : (setup config v s.1).outcome = .ok ()) (watch : Stopwatch) :
    let left := taken job env v (opening config v s)
    let tracked := left.workspace.session.tracked.map Allocation.address
    { settled watch (left.noted watch (({} : Report ρ).time .setup (watch .setup)))
        ⟨tracked, firstRefusal (freeEach v tracked left.workspace.session.device).1⟩ with
      finalStage := .done } = (course config job env v s).report watch := by
  intro left tracked
  have hcourse : course config job env v s = _ := course_of_ready h
  have hreset : (course config job env v s).succeeded .reset = true := by
    rw [hcourse]
    simp [Course.succeeded]
  have hprepare : (course config job env v s).succeeded .prepare = left.isPrepared := by
    rw [hcourse]
    simp [Course.succeeded, Taken.isPrepared, left]
  have hfailure : (course config job env v s).failure? = left.failure?.or
      (firstRefusal (freeEach v tracked left.workspace.session.device).1) := by
    rw [hcourse, Course.failure?, List.findSome?_cons_of_isNone rfl,
      List.findSome?_cons_of_isNone rfl, List.findSome?_append, List.findSome?_singleton,
      releaseOutcome_failure?]
    rfl
  have hreleased : (course config job env v s).frees.length = tracked.length := by
    rw [hcourse]
    exact length_freeEach v tracked left.workspace.session.device
  have houtput : (course config job env v s).output = left.output := by
    rw [hcourse]
  simp only [Course.report, Course.timed, hreset, hprepare, hfailure, hreleased, houtput,
    if_true, settled, Taken.noted]
  generalize firstRefusal (freeEach v tracked left.workspace.session.device).1 = refusal
  -- a failure is kept only if there was none before, so the one of the programs wins
  cases left.isPrepared <;> cases left.failure? <;> cases refusal <;>
    simp [failing, Report.recordFailure, Report.time, Timings.record]

theorem finished_outcome {report : Report ρ} {d : Duration} (h : report.timings.total = .ok d)
    (v : Verbosity) (s : α) : (finished report v s).outcome = .ok () := by
  unfold finished
  rw [h]
  rfl

/-- The programs of a job leave the workspace that its script leaves. -/
theorem taken_workspace {job : Job τ ε σ ρ} {env : ε} {v : Verbosity} {w : Workspace δ τ}
    (hreturns : ((job.script env).perform v w).outcome.returns = true) :
    (taken job env v w).workspace = ((job.script env).perform v w).state := by
  obtain ⟨-, -, -, hstate⟩ :=
    phases_taken hreturns (fun _ => 0) (rfl : ({} : Report ρ).output = none)
  rw [← hstate, phases_state]

/-- **A run reports its course**, and leaves the device and the host data as the course does. -/
theorem run_eq_course {config : Config} {job : Job τ ε σ ρ} {env : ε} {v : Verbosity} {s : δ × τ}
    (hsetup : (setup config v s.1).outcome.returns = true)
    (hscript : ((job.script env).perform v (opening config v s)).outcome.returns = true)
    (hfree : ∀ (a : Address) (v : Verbosity) (d : δ), (Device.free a v d).outcome.returns = true)
    (watch : Stopwatch) :
    (run config watch job env v s).outcome = .ok ((course config job env v s).report watch) ∧
      (run config watch job env v s).state = (course config job env v s).state := by
  cases hselect : (Device.select config.deviceOrdinal v s.1).outcome with
  | panic p =>
      rw [setup, Act.bind_of_panic hselect] at hsetup
      cases hsetup
  | error e =>
      obtain ⟨houtcome, hstate⟩ := run_of_unselected watch job env hselect
      rw [houtcome, hstate, course_of_unselected hselect]
      exact ⟨rfl, rfl⟩
  | ok u =>
      cases hready : (setup config v s.1).outcome with
      | panic p =>
          rw [hready] at hsetup
          cases hsetup
      | error e =>
          obtain ⟨houtcome, hstate⟩ := run_of_unreset watch job env hselect hready
          rw [houtcome, hstate, course_of_unreset hselect hready]
          exact ⟨rfl, rfl⟩
      | ok u =>
          constructor
          · -- the orderly end leaves nothing to the release that closes the scope
            obtain ⟨houtcome, htracked⟩ := session_of_returns hscript hfree watch
              (rfl : (({} : Report ρ).time .setup (watch .setup)).output = none)
            have hscope : (Workspace.scope config (session watch job env
                (({} : Report ρ).time .setup (watch .setup)) .initializing) v
                ((setup config v s.1).state, s.2)).outcome = _ :=
              scope_of_released houtcome htracked
            have hreport : _ = (course config job env v s).report watch :=
              settled_noted hready watch
            obtain ⟨d, htotal⟩ := (course config job env v s).report_total watch
            rw [← hreport] at htotal
            rw [(run_of_ready watch job env hready).1, ← hreport]
            unfold afterSetup
            rw [Act.bind_of_ok hscope, Step.after_outcome,
              Act.bind_of_ok (advance_outcome (by rfl) v _), Step.after_outcome,
              Act.bind_of_ok (finished_outcome htotal v _)]
            rfl
          · have hfinal : (taken job env v (opening config v s)).workspace =
                final config job env v s := taken_workspace hscript
            rw [run_state_of_ready watch job env hready, course_of_ready hready]
            dsimp only
            rw [hfinal, (teardown_frees hfree v _).2]

/-! ### What a run reports -/

/-- A failure to select is a failure of an unavailable device, under the number that the device
gives itself or else under the one that was asked for. -/
theorem failure_of_unselected {config : Config} {job : Job τ ε σ ρ} {env : ε} {v : Verbosity}
    {s : δ × τ} {e : Failure}
    (h : (Device.select config.deviceOrdinal v s.1).outcome = .error e) :
    ∃ ordinal reason,
      (course config job env v s).failure? = some (.deviceUnavailable ordinal reason) ∧
        (e = .deviceUnavailable ordinal reason ∨
          (∀ o r, e ≠ .deviceUnavailable o r) ∧ ordinal = config.deviceOrdinal ∧
            reason = e.message) := by
  rw [course_of_unselected h]
  cases e with
  | deviceUnavailable o r => exact ⟨o, r, rfl, Or.inl rfl⟩
  | _ => exact ⟨_, _, rfl, Or.inr ⟨nofun, rfl, rfl⟩⟩

/-- **What a run reports, and which parts of it are begun.**

As long as nothing panics, a run returns a report and leaves what its course leaves.  The report has
the status and the words of the first failure in the course: of the selection, of the reset, of the
programs in order, of the first free that fails in the end.  It is a success iff there is none.  A
marked run, which is the same run, shows the programs that were started; a part is begun iff the
parts before it that it needs succeed.  Setup, preparation and release are timed iff the device was
selected and reset, the kernels iff the preparation succeeded as well.  There are results iff they
were copied back, even if the release fails.  The run ends in its last stage, and no move to a stage
was refused. -/
theorem run_reports_first_failure {config : Config} {job : Job τ ε σ ρ} {env : ε} {v : Verbosity}
    {s : δ × τ} (hsetup : (setup config v s.1).outcome.returns = true)
    (hscript : ((job.script env).perform v (opening config v s)).outcome.returns = true)
    (hfree : ∀ (a : Address) (v : Verbosity) (d : δ), (Device.free a v d).outcome.returns = true)
    (watch : Stopwatch) :
    let c := course config job env v s
    let marked := run config watch job.marked env v (s.1, (s.2, []))
    ∃ report, (run config watch job env v s).outcome = .ok report ∧
      (run config watch job env v s).state = c.state ∧
      report.error = (c.failure?.map Failure.status).getD .success ∧
      report.failure = c.failure?.map Failure.message ∧
      (report.error = .success ↔ c.failure? = none) ∧
      (∀ e, (Device.select config.deviceOrdinal v s.1).outcome = .error e →
        ∃ ordinal reason, c.failure? = some (.deviceUnavailable ordinal reason) ∧
          (e = .deviceUnavailable ordinal reason ∨
            (∀ o r, e ≠ .deviceUnavailable o r) ∧ ordinal = config.deviceOrdinal ∧
              reason = e.message)) ∧
      marked.map (Prod.map id Prod.fst) = run config watch job env v s ∧
      marked.state.2.2 = c.parts.filter Part.isProgram ∧
      (∀ p, p ∈ c.parts ↔ ∀ q ∈ p.needs, c.succeeded q = true) ∧
      (∀ phase ∈ [Phase.setup, .prepareEnv, .freeMemory],
        (report.timings.get phase).isSome = true ↔
          c.succeeded .select = true ∧ c.succeeded .reset = true) ∧
      ((report.timings.get .kernel).isSome = true ↔
        c.succeeded .select = true ∧ c.succeeded .reset = true ∧ c.succeeded .prepare = true) ∧
      (report.output.isSome = true ↔ c.succeeded .copyBack = true) ∧
      report.finalStage = .done := by
  intro c marked
  obtain ⟨houtcome, hstate⟩ := run_eq_course hsetup hscript hfree watch
  have hselect : ∀ {p : Part}, Part.select ∈ p.needs → c.succeeded p = true →
      c.succeeded .select = true := fun hq h => succeeded_of_needs h hq
  have hreset : ∀ {p : Part}, Part.reset ∈ p.needs → c.succeeded p = true →
      c.succeeded .reset = true := fun hq h => succeeded_of_needs h hq
  refine ⟨c.report watch, houtcome, hstate, rfl, rfl, ?_, fun e h => failure_of_unselected h,
    run_lifts Device.view_id job.marked_view config watch env v (s.1, (s.2, [])),
    run_marks config watch job env v s, mem_parts_iff config job env v s, ?_, ?_,
    output_isSome_iff config job env v s, rfl⟩
  · change (c.failure?.map Failure.status).getD .success = .success ↔ c.failure? = none
    cases c.failure? with
    | none => simp
    | some e => simp [e.status_ne_success]
  · have htimed : ∀ phase, (c.timed watch phase .reset).isSome = true ↔
        c.succeeded .select = true ∧ c.succeeded .reset = true := by
      intro phase
      rw [Course.timed_isSome_iff]
      exact ⟨fun h => ⟨hselect (by decide) h, h⟩, fun h => h.2⟩
    intro phase hphase
    simp only [List.mem_cons, List.not_mem_nil, or_false] at hphase
    rcases hphase with rfl | rfl | rfl
    · exact htimed .setup
    · exact htimed .prepareEnv
    · exact htimed .freeMemory
  · change (c.timed watch .kernel .prepare).isSome = true ↔ _
    rw [Course.timed_isSome_iff]
    exact ⟨fun h => ⟨hselect (by decide) h, hreset (by decide) h, h⟩, fun h => h.2.2⟩

/-- A job that allocates memory and cannot launch its kernel; the driver calls this status zero. -/
def unlaunchableJob : Job Unit Unit Unit Unit where
  prepare _ := do
    let _ ← Program.allocate 16
  launch _ := .fail (.deviceCall .launch 0)
  copyBack _ := pure []

theorem launch_failure_outlives_refused_release :
    let c := course {} unlaunchableJob () .off (Emulated.refusing, ())
    (setup {} .off Emulated.refusing).outcome.returns = true ∧
      ((unlaunchableJob.script ()).perform .off
        (opening {} .off (Emulated.refusing, ()))).outcome.returns = true ∧
      c.frees = [(⟨0x7f0000000000⟩, .error (.deviceCall .free 700))] ∧
      ∃ report, (run {} (fun _ => 5) unlaunchableJob () .off (Emulated.refusing, ())).outcome =
          .ok report ∧
        report.error = .deviceApi 0 ∧
        report.failure = some (Failure.deviceCall .launch 0).message ∧
        (report.output.isSome = true ↔ c.succeeded .copyBack = true) := by
  intro c
  have hsetup : (setup {} .off Emulated.refusing).outcome.returns = true := rfl
  have hscript : ((unlaunchableJob.script ()).perform .off
      (opening {} .off (Emulated.refusing, ()))).outcome.returns = true := rfl
  have hfailure : c.failure? = some (.deviceCall .launch 0) := rfl
  obtain ⟨report, houtcome, -, herror, hmessage, -, -, -, -, -, -, -, houtput, -⟩ :=
    run_reports_first_failure hsetup hscript Emulated.free_returns fun _ => 5
  rw [hfailure] at herror hmessage
  exact ⟨hsetup, hscript, rfl, report, houtcome, herror, hmessage, houtput⟩

/-- A device that cannot be selected, and says so under a number of its own. -/
def renumberedDevice : Recorder Emulated where
  inner := Emulated.new
  name := "proxy"
  refusals := [⟨.select, 0, .deviceUnavailable 7 "in use"⟩]

/-- The number of an unavailable device in a report need not be the configured one. -/
theorem unavailable_under_another_number :
    ({} : Config).deviceOrdinal = 0 ∧
      (Device.select 0 .off renumberedDevice).outcome =
        .error (.deviceUnavailable 7 "in use") ∧
      ∃ report, (run {} (fun _ => 0) unlaunchableJob () .off (renumberedDevice, ())).outcome =
          .ok report ∧
        report.failure = some (Failure.deviceUnavailable 7 "in use").message ∧
        ∀ reason, report.failure ≠ some (Failure.deviceUnavailable 0 reason).message := by
  have hselect : (Device.select 0 .off renumberedDevice).outcome =
      .error (.deviceUnavailable 7 "in use") := rfl
  have hrun : (run {} (fun _ => 0) unlaunchableJob () .off (renumberedDevice, ())).outcome =
      .ok (refused (.deviceUnavailable 7 "in use")) :=
    (run_of_unselected (e := .deviceUnavailable 7 "in use") _ _ _ hselect).1
  refine ⟨rfl, hselect, _, hrun, rfl, ?_⟩
  intro reason h
  have hmessage : (Failure.deviceUnavailable 7 "in use").message =
      (Failure.deviceUnavailable 0 reason).message := Option.some.inj h
  have htext : "device 7 unavailable: in use".toList =
      "device 0 unavailable: ".toList ++ reason.toList := by
    rw [← String.toList_append]
    exact congrArg String.toList hmessage
  -- whatever the reason is, the texts differ in their digit
  exact absurd (congrArg (fun text => text[7]?) htext) (by simp)

end Run

end Offload
