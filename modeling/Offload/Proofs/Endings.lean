/-
**What a run leaves behind.**

The three programs of a job, each started only if those before it succeeded, are one program: their
sequence.  A run selects and resets the device, performs that program in a fresh session and
releases what the session still owns.  However the program ends — with a value, with a failure or
with a panic — the release starts from the session that it left.

Main definitions:

* `Offload.Job.script` — the three programs of a job as one;
* `Offload.Run.setup` — the device calls before a session;
* `Offload.Run.final` — the workspace in which the programs of a job leave their session.

Main results:

* `Offload.Run.phases_state` — the phases of a run leave the workspace that the script leaves;
* `Offload.Run.run_state_of_ready` — **a run releases what its programs leave**, however they end;
* `Offload.Run.run_of_not_ready` — a run that fails during setup does nothing else.
-/

import Offload.Proofs.View

set_option autoImplicit false

namespace Offload

/-- The failure that a call returned, if it returned one. -/
def Outcome.failure? {α : Type} : Outcome α → Option Failure
  | .error e => some e
  | _ => none

/-- The three programs of a job as one program. -/
def Job.script {τ ε σ ρ : Type} (job : Job τ ε σ ρ) (env : ε) : Program τ (List ρ) := do
  let staged ← job.prepare env
  let staged ← job.launch staged
  job.copyBack staged

namespace Run

variable {δ τ ε σ ρ α β : Type}

/-! ### Moves between stages -/

@[simp] theorem advance_state (source target : Stage) (v : Verbosity) (s : α) :
    (advance source target v s).state = s := by
  unfold advance
  split <;> rfl

/-- **A move that is allowed never panics.** -/
theorem advance_outcome {source target : Stage} (h : source.canAdvance target = true)
    (v : Verbosity) (s : α) : (advance source target v s).outcome = .ok target := by
  simp only [advance, h, if_true]
  rfl

/-! ### The phases -/

/-- One phase of a run: the move to its stage, its program, and what follows if that succeeds. -/
def phase (source target : Stage) (p : Act (Workspace δ τ) α) (field : Field) (report : Report ρ)
    (next : α → Stage → Act (Workspace δ τ) (Report ρ × Stage)) :
    Act (Workspace δ τ) (Report ρ × Stage) := do
  let stage ← advance source target
  let ended ← p.attempt
  match ended with
  | .error e => do
      phaseFailed field e
      pure (report.recordFailure e, stage)
  | .ok a => next a stage

section Phase

variable {source target : Stage} {p : Act (Workspace δ τ) α} {field : Field} {report : Report ρ}
  {next : α → Stage → Act (Workspace δ τ) (Report ρ × Stage)} {v : Verbosity} {w : Workspace δ τ}

theorem phase_of_ok (h : source.canAdvance target = true) {a : α} (hp : (p v w).outcome = .ok a) :
    (phase source target p field report next v w).outcome =
        (next a target v (p v w).state).outcome ∧
      (phase source target p field report next v w).state =
        (next a target v (p v w).state).state := by
  unfold phase
  rw [Act.bind_of_ok (advance_outcome h v w), advance_state,
    Act.bind_of_ok (Act.attempt_of_ok hp)]
  simp only [Step.after_outcome, Step.after_state, Act.attempt_state, and_self]

theorem phase_of_error (h : source.canAdvance target = true) {e : Failure}
    (hp : (p v w).outcome = .error e) :
    (phase source target p field report next v w).outcome =
        .ok (report.recordFailure e, target) ∧
      (phase source target p field report next v w).state = (p v w).state := by
  unfold phase
  rw [Act.bind_of_ok (advance_outcome h v w), advance_state,
    Act.bind_of_ok (Act.attempt_of_error hp)]
  simp only [Step.after_outcome, Step.after_state, Act.attempt_state]
  exact ⟨rfl, rfl⟩

theorem phase_of_panic (h : source.canAdvance target = true) {c : Panic}
    (hp : (p v w).outcome = .panic c) :
    (phase source target p field report next v w).outcome = .panic c ∧
      (phase source target p field report next v w).state = (p v w).state := by
  unfold phase
  rw [Act.bind_of_ok (advance_outcome h v w), advance_state,
    Act.bind_of_panic (Act.attempt_of_panic hp)]
  simp only [Step.after_outcome, Step.after_state, Act.attempt_state, and_self]

/-- A phase leaves the workspace that its program leaves, or the one that what follows leaves. -/
theorem phase_state (h : source.canAdvance target = true) {q : α → Act (Workspace δ τ) β}
    (hnext : ∀ a, (next a target v (p v w).state).state = (q a v (p v w).state).state) :
    (phase source target p field report next v w).state = ((p >>= q) v w).state := by
  cases hp : (p v w).outcome with
  | ok a => rw [(phase_of_ok h hp).2, hnext, Act.bind_of_ok hp, Step.after_state]
  | error e => rw [(phase_of_error h hp).2, Act.bind_of_error hp]
  | panic c => rw [(phase_of_panic h hp).2, Act.bind_of_panic hp]

end Phase

variable [Device δ]

/-- The device calls before a session. -/
def setup (config : Config) : Act δ Unit := do
  Device.select config.deviceOrdinal
  Device.reset

/-- The workspace in which a job starts. -/
def opening (config : Config) (v : Verbosity) (s : δ × τ) : Workspace δ τ :=
  ⟨Session.start (setup config v s.1).state config, s.2⟩

/-- The workspace in which the programs of a job leave their session. -/
def final (config : Config) (job : Job τ ε σ ρ) (env : ε) (v : Verbosity) (s : δ × τ) :
    Workspace δ τ :=
  ((job.script env).perform v (opening config v s)).state

/-- The phases of a run, one inside the other. -/
theorem phases_eq (watch : Stopwatch) (job : Job τ ε σ ρ) (env : ε) (report : Report ρ)
    (stage : Stage) :
    (phases watch job env report stage : Act (Workspace δ τ) (Report ρ × Stage)) =
      let report := report.time .prepareEnv (watch .prepareEnv)
      phase stage .preparing (job.prepare env).perform
        (.plain "phase" Phase.prepareEnv.text) report fun staged stage =>
      let report := report.time .kernel (watch .kernel)
      phase stage .executing (job.launch staged).perform
        (.plain "phase" Phase.kernel.text) report fun staged stage =>
      phase stage .copyingBack (job.copyBack staged).perform
        (.text "phase" "copy_back") report fun output stage =>
      pure ({ report with output := some output }, stage) := by
  refine bind_congr fun stage => bind_congr fun prepared => ?_
  cases prepared with
  | error e => rfl
  | ok staged =>
      refine bind_congr fun stage => bind_congr fun launched => ?_
      cases launched with
      | error e => rfl
      | ok staged =>
          refine bind_congr fun stage => bind_congr fun copied => ?_
          cases copied with
          | error e => rfl
          | ok output => rfl

theorem perform_script (job : Job τ ε σ ρ) (env : ε) :
    ((job.script env).perform : Act (Workspace δ τ) (List ρ)) =
      (job.prepare env).perform >>= fun staged =>
        (job.launch staged).perform >>= fun staged => (job.copyBack staged).perform := by
  simp only [Job.script, Program.perform, Dialogue.run_bind]

/-- The phases of a run leave the workspace that the script leaves. -/
theorem phases_state (watch : Stopwatch) (job : Job τ ε σ ρ) (env : ε) (report : Report ρ)
    (v : Verbosity) (w : Workspace δ τ) :
    (phases watch job env report .initializing v w).state =
      ((job.script env).perform v w).state := by
  rw [perform_script, phases_eq]
  refine phase_state (by rfl) fun staged => ?_
  refine phase_state (by rfl) fun staged => ?_
  -- the last phase is followed by no program, only by its result
  rw [phase_state (q := pure) (by rfl) fun output => rfl, Act.bind_pure]

/-! ### The end of a session -/

/-- A session without allocations is left as it is. -/
theorem abandon_of_empty {s : Session δ} (h : s.tracked = []) (v : Verbosity) :
    (Session.abandon v s).state = s ∧ (Session.abandon v s).outcome = .ok () := by
  unfold Session.abandon
  rw [Act.bind_of_ok (rfl : (Act.get v s).outcome = .ok s)]
  simp [h]

/-- An abandoned session releases what a session with an orderly end would release. -/
theorem abandon_state (v : Verbosity) (s : Session δ) :
    (Session.abandon v s).state.device = (Session.teardown v s).state.device := by
  cases h : s.tracked with
  | nil =>
      -- with nothing to release, neither of them makes a call
      rw [(abandon_of_empty h v).1]
      simp only [Session.teardown, Act.bind_apply, Act.get_apply, Act.modify_apply, h]
      rfl
  | cons a rest =>
      have hne : s.tracked.isEmpty = false := by rw [h]; rfl
      simp only [Session.abandon, Act.bind_apply, Act.get_apply, Step.after_state, hne,
        Bool.false_eq_true, if_false, Act.note_ok_outcome, Act.note_state]
      cases (Session.teardown v s).outcome <;> rfl

/-- The session after a device call that frees an address. -/
def afterFree (address : Address) (v : Verbosity) (s : Session δ) : Session δ :=
  { s with device := (Device.free address v s.device).state }

/-- Releasing goes on after a free that returned, whatever it returned. -/
theorem releaseEach_cons {a : Allocation} {v : Verbosity} {s : Session δ}
    (h : (Device.free a.address v s.device).outcome.returns = true) (rest : List Allocation) :
    (Session.releaseEach (a :: rest) v s).state =
        (Session.releaseEach rest v (afterFree a.address v s)).state ∧
      (Session.releaseEach (a :: rest) v s).outcome =
        (Session.releaseEach rest v (afterFree a.address v s)).outcome >>= fun report =>
          .ok ⟨a.address :: report.released,
            (Device.free a.address v s.device).outcome.failure?.or report.firstError⟩ := by
  have hstate : (Session.onDevice (Device.free a.address) v s).state = afterFree a.address v s :=
    rfl
  cases hfree : (Device.free a.address v s.device).outcome with
  | ok u =>
      have hcall : (Session.onDevice (Device.free a.address) v s).outcome = .ok u := hfree
      rw [Session.releaseEach, Act.bind_of_ok (Act.attempt_of_ok hcall), Act.attempt_state, hstate]
      simp only [Act.bind_apply, Act.pure_apply, Step.after_outcome, Step.after_state]
      cases (Session.releaseEach rest v (afterFree a.address v s)).outcome <;> exact ⟨rfl, rfl⟩
  | error e =>
      have hcall : (Session.onDevice (Device.free a.address) v s).outcome = .error e := hfree
      rw [Session.releaseEach, Act.bind_of_ok (Act.attempt_of_error hcall), Act.attempt_state,
        hstate]
      simp only [Act.bind_apply, Act.pure_apply, Act.note_ok_outcome, Act.note_state,
        Step.after_outcome, Step.after_state]
      cases (Session.releaseEach rest v (afterFree a.address v s)).outcome <;> exact ⟨rfl, rfl⟩
  | panic p => rw [hfree] at h; cases h

theorem releaseEach_of_panic {a : Allocation} {v : Verbosity} {s : Session δ} {p : Panic}
    (h : (Device.free a.address v s.device).outcome = .panic p) (rest : List Allocation) :
    (Session.releaseEach (a :: rest) v s).state = afterFree a.address v s := by
  have hcall : (Session.onDevice (Device.free a.address) v s).outcome = .panic p := h
  rw [Session.releaseEach, Act.bind_of_panic (Act.attempt_of_panic hcall), Act.attempt_state]
  rfl

/-- Releasing changes the device of a session and nothing else. -/
theorem releaseEach_tracked (l : List Allocation) (v : Verbosity) (s : Session δ) :
    (Session.releaseEach l v s).state.tracked = s.tracked := by
  induction l generalizing s with
  | nil => rfl
  | cons a rest ih =>
      cases hfree : (Device.free a.address v s.device).outcome with
      | ok u => rw [(releaseEach_cons (by rw [hfree]; rfl) rest).1, ih]; rfl
      | error e => rw [(releaseEach_cons (by rw [hfree]; rfl) rest).1, ih]; rfl
      | panic p => rw [releaseEach_of_panic hfree]; rfl

/-- An orderly end releases the allocations that the session owns, one after the other. -/
theorem teardown_eq (v : Verbosity) (s : Session δ) :
    Session.teardown v s = Session.releaseEach s.tracked v { s with tracked := [] } := rfl

/-- After its end a session owns nothing. -/
theorem teardown_tracked (v : Verbosity) (s : Session δ) :
    (Session.teardown v s).state.tracked = [] := by
  rw [teardown_eq, releaseEach_tracked]

/-! ### The whole run -/

/-- A report with what the end of a session adds to it. -/
def settled (watch : Stopwatch) (report : Report ρ) (teardown : Teardown) : Report ρ :=
  let report := { report.time .freeMemory (watch .freeMemory) with
    released := teardown.released.length }
  match teardown.firstError with
  | some e => report.recordFailure e
  | none => report

/-- The end of a session. -/
def closing (watch : Stopwatch) (report : Report ρ) (stage : Stage) :
    Act (Workspace δ τ) (Report ρ × Stage) := do
  let stage ← advance stage .tearingDown
  let teardown ← Workspace.onSession Session.teardown
  pure (settled watch report teardown, stage)

theorem session_eq (watch : Stopwatch) (job : Job τ ε σ ρ) (env : ε) (report : Report ρ)
    (stage : Stage) :
    (session watch job env report stage : Act (Workspace δ τ) (Report ρ × Stage)) =
      phases watch job env report stage >>= fun reached => closing watch reached.1 reached.2 := rfl

/-- The end of a session leaves it as it was or after an orderly end. -/
theorem closing_state (watch : Stopwatch) (report : Report ρ) (stage : Stage) (v : Verbosity)
    (w : Workspace δ τ) :
    (closing watch report stage v w).state = w ∨
      (closing watch report stage v w).state =
        { w with session := (Session.teardown v w.session).state } := by
  unfold closing
  cases ha : (advance stage .tearingDown v w).outcome with
  | error e => rw [Act.bind_of_error ha, advance_state]; exact Or.inl rfl
  | panic p => rw [Act.bind_of_panic ha, advance_state]; exact Or.inl rfl
  | ok stage =>
      rw [Act.bind_of_ok ha, Step.after_state, advance_state]
      refine Or.inr ?_
      simp only [Act.bind_apply, Workspace.onSession, Act.onPart]
      cases (Session.teardown v w.session).outcome <;> rfl

@[simp] theorem recordFailure_released (report : Report ρ) (e : Failure) :
    (report.recordFailure e).released = report.released := by
  unfold Report.recordFailure
  split <;> rfl

@[simp] theorem settled_released (watch : Stopwatch) (report : Report ρ) (teardown : Teardown) :
    (settled watch report teardown).released = teardown.released.length := by
  unfold settled
  cases teardown.firstError <;> simp

/-- An end of a session that returns has gone through its orderly end. -/
theorem closing_eq_ok {watch : Stopwatch} {report : Report ρ} {stage : Stage} {v : Verbosity}
    {w : Workspace δ τ} {reached : Report ρ × Stage}
    (h : (closing watch report stage v w).outcome = .ok reached) :
    ∃ teardown, (Session.teardown v w.session).outcome = .ok teardown ∧
      reached = (settled watch report teardown, .tearingDown) := by
  obtain ⟨stage', hadvance, h⟩ := Act.bind_eq_ok.1 h
  obtain ⟨teardown, hteardown, h⟩ := Act.bind_eq_ok.1 h
  rw [advance_state] at hteardown
  have hstage : stage' = .tearingDown := by
    unfold advance at hadvance
    split at hadvance
    · exact (Outcome.ok.inj hadvance).symm
    · cases hadvance
  subst hstage
  exact ⟨teardown, hteardown, (Outcome.ok.inj h).symm⟩

/-- The part of a run inside a session leaves the workspace of the script, or the same workspace
after an orderly end. -/
theorem session_state (watch : Stopwatch) (job : Job τ ε σ ρ) (env : ε) (report : Report ρ)
    (v : Verbosity) {w left : Workspace δ τ} (hleft : ((job.script env).perform v w).state = left) :
    (session watch job env report .initializing v w).state = left ∨
      (session watch job env report .initializing v w).state =
        { left with session := (Session.teardown v left.session).state } := by
  rw [← phases_state watch job env report] at hleft
  rw [session_eq]
  cases hp : (phases watch job env report .initializing v w).outcome with
  | error e => rw [Act.bind_of_error hp]; exact Or.inl hleft
  | panic p => rw [Act.bind_of_panic hp]; exact Or.inl hleft
  | ok reached =>
      rw [Act.bind_of_ok hp, Step.after_state, hleft]
      exact closing_state watch reached.1 reached.2 v left

/-- A session that returns has been released. -/
theorem session_eq_ok {watch : Stopwatch} {job : Job τ ε σ ρ} {env : ε} {report : Report ρ}
    {v : Verbosity} {w : Workspace δ τ} {reached : Report ρ × Stage}
    (h : (session watch job env report .initializing v w).outcome = .ok reached) :
    ∃ teardown,
      (Session.teardown v ((job.script env).perform v w).state.session).outcome = .ok teardown ∧
        reached.1.released = teardown.released.length := by
  rw [session_eq] at h
  obtain ⟨reached', -, h⟩ := Act.bind_eq_ok.1 h
  obtain ⟨teardown, hteardown, rfl⟩ := closing_eq_ok h
  rw [phases_state] at hteardown
  exact ⟨teardown, hteardown, settled_released watch reached'.1 teardown⟩

/-- However the part inside a session ends, its device is left as an orderly end leaves it. -/
theorem scope_session_state (config : Config) (watch : Stopwatch) (job : Job τ ε σ ρ) (env : ε)
    (report : Report ρ) (v : Verbosity) (s : δ × τ) {left : Workspace δ τ}
    (hleft : ((job.script env).perform v ⟨Session.start s.1 config, s.2⟩).state = left) :
    (Workspace.scope config (session watch job env report .initializing) v s).state =
      ((Session.teardown v left.session).state.device, left.host) := by
  simp only [Workspace.scope]
  rcases session_state watch job env report v hleft with h | h
  · rw [h, abandon_state]
  · rw [h, (abandon_of_empty (teardown_tracked v left.session) v).1]

/-- A scope returns a value only if its action does. -/
theorem scope_eq_ok {config : Config} {x : Act (Workspace δ τ) α} {v : Verbosity} {s : δ × τ}
    {a : α} (h : (Workspace.scope config x v s).outcome = .ok a) :
    (x v ⟨Session.start s.1 config, s.2⟩).outcome = .ok a := by
  simp only [Workspace.scope] at h
  split at h
  · cases h
  · cases h
  · exact h

/-- The part of a run after a successful setup. -/
def afterSetup (config : Config) (watch : Stopwatch) (job : Job τ ε σ ρ) (env : ε) :
    Act (δ × τ) (Report ρ) := do
  let reached ← Workspace.scope config
    (session watch job env (({} : Report ρ).time .setup (watch .setup)) .initializing)
  let stage ← advance reached.2 .done
  finished { reached.1 with finalStage := stage }
  pure { reached.1 with finalStage := stage }

/-- The report of a run that ends during setup. -/
def refused (e : Failure) : Report ρ :=
  { Report.recordFailure {} e with finalStage := .done }

section Run

variable {config : Config} {v : Verbosity} {s : δ × τ} (watch : Stopwatch)
  (job : Job τ ε σ ρ) (env : ε)

/-- The span around a run only shows in the log. -/
theorem run_eq_body (config : Config) (v : Verbosity) (s : δ × τ) :
    (run config watch job env v s).outcome = (body config watch job env v s).outcome ∧
      (run config watch job env v s).state = (body config watch job env v s).state := by
  simp only [run, Act.within]
  split <;> exact ⟨rfl, rfl⟩

/-- A run on a device that cannot be selected. -/
theorem run_of_unselected {e : Failure}
    (h : (Device.select config.deviceOrdinal v s.1).outcome = .error e) :
    (run config watch job env v s).outcome =
        .ok (refused (e.asUnavailable config.deviceOrdinal)) ∧
      (run config watch job env v s).state =
        ((Device.select config.deviceOrdinal v s.1).state, s.2) := by
  have hcall : (onDevice (Device.select config.deviceOrdinal) v s).outcome = .error e := h
  rw [(run_eq_body watch job env config v s).1, (run_eq_body watch job env config v s).2, body,
    Act.bind_of_ok (advance_outcome (by rfl) v s), advance_state,
    Act.bind_of_ok (Act.attempt_of_error hcall), Act.attempt_state]
  exact ⟨rfl, rfl⟩

/-- A run on a device that panics when it is selected. -/
theorem run_of_select_panic {p : Panic}
    (h : (Device.select config.deviceOrdinal v s.1).outcome = .panic p) :
    (run config watch job env v s).outcome = .panic p ∧
      (run config watch job env v s).state =
        ((Device.select config.deviceOrdinal v s.1).state, s.2) := by
  have hcall : (onDevice (Device.select config.deviceOrdinal) v s).outcome = .panic p := h
  rw [(run_eq_body watch job env config v s).1, (run_eq_body watch job env config v s).2, body,
    Act.bind_of_ok (advance_outcome (by rfl) v s), advance_state,
    Act.bind_of_panic (Act.attempt_of_panic hcall), Act.attempt_state]
  exact ⟨rfl, rfl⟩

section Selected

variable (h : (Device.select config.deviceOrdinal v s.1).outcome = .ok ())

include h

/-- After a successful selection a run is what follows it. -/
theorem body_of_selected :
    ∃ log, body config watch job env v s = Step.after log (((onDevice Device.reset).attempt >>= fun
      | .error e => giveUp "device reset failed" e .initializing
      | .ok () => afterSetup config watch job env)
        v ((Device.select config.deviceOrdinal v s.1).state, s.2)) := by
  have hcall : (onDevice (Device.select config.deviceOrdinal) v s).outcome = .ok () := h
  rw [body, Act.bind_of_ok (advance_outcome (by rfl) v s), advance_state,
    Act.bind_of_ok (Act.attempt_of_ok hcall), Act.attempt_state, Step.after_after]
  exact ⟨_, rfl⟩

/-- After a successful selection the setup is the reset. -/
theorem setup_of_selected :
    (setup config v s.1).outcome =
        (Device.reset v (Device.select config.deviceOrdinal v s.1).state).outcome ∧
      (setup config v s.1).state =
        (Device.reset v (Device.select config.deviceOrdinal v s.1).state).state := by
  rw [setup, Act.bind_of_ok h]
  exact ⟨rfl, rfl⟩

/-- A run on a device that can be selected and not reset. -/
theorem run_of_unreset {e : Failure} (hreset : (setup config v s.1).outcome = .error e) :
    (run config watch job env v s).outcome = .ok (refused e) ∧
      (run config watch job env v s).state = ((setup config v s.1).state, s.2) := by
  rw [(setup_of_selected h).1] at hreset
  have hcall : (onDevice Device.reset v
      ((Device.select config.deviceOrdinal v s.1).state, s.2)).outcome = .error e := hreset
  obtain ⟨log, hbody⟩ := body_of_selected watch job env h
  rw [(run_eq_body watch job env config v s).1, (run_eq_body watch job env config v s).2, hbody,
    Act.bind_of_ok (Act.attempt_of_error hcall), Act.attempt_state, (setup_of_selected h).2]
  exact ⟨rfl, rfl⟩

/-- A run on a device that panics when it is reset. -/
theorem run_of_reset_panic {p : Panic} (hreset : (setup config v s.1).outcome = .panic p) :
    (run config watch job env v s).outcome = .panic p ∧
      (run config watch job env v s).state = ((setup config v s.1).state, s.2) := by
  rw [(setup_of_selected h).1] at hreset
  have hcall : (onDevice Device.reset v
      ((Device.select config.deviceOrdinal v s.1).state, s.2)).outcome = .panic p := hreset
  obtain ⟨log, hbody⟩ := body_of_selected watch job env h
  rw [(run_eq_body watch job env config v s).1, (run_eq_body watch job env config v s).2, hbody,
    Act.bind_of_panic (Act.attempt_of_panic hcall), Act.attempt_state, (setup_of_selected h).2]
  exact ⟨rfl, rfl⟩

end Selected

/-- A setup succeeds only on a device that can be selected. -/
theorem selected_of_ready (h : (setup config v s.1).outcome = .ok ()) :
    (Device.select config.deviceOrdinal v s.1).outcome = .ok () := by
  obtain ⟨u, hselect, -⟩ := Act.bind_eq_ok.1 h
  exact hselect

/-- After a successful setup a run is what follows it. -/
theorem run_of_ready (h : (setup config v s.1).outcome = .ok ()) :
    (run config watch job env v s).outcome =
        (afterSetup config watch job env v ((setup config v s.1).state, s.2)).outcome ∧
      (run config watch job env v s).state =
        (afterSetup config watch job env v ((setup config v s.1).state, s.2)).state := by
  have hselect := selected_of_ready h
  have hreset := h
  rw [(setup_of_selected hselect).1] at hreset
  have hcall : (onDevice Device.reset v
      ((Device.select config.deviceOrdinal v s.1).state, s.2)).outcome = .ok () := hreset
  obtain ⟨log, hbody⟩ := body_of_selected watch job env hselect
  rw [(run_eq_body watch job env config v s).1, (run_eq_body watch job env config v s).2, hbody,
    Act.bind_of_ok (Act.attempt_of_ok hcall), Act.attempt_state, (setup_of_selected hselect).2]
  exact ⟨rfl, rfl⟩

/-- **A run that fails during setup does nothing else**, and reports no release. -/
theorem run_of_not_ready (h : (setup config v s.1).outcome ≠ .ok ()) :
    (run config watch job env v s).state = ((setup config v s.1).state, s.2) ∧
      ∀ report, (run config watch job env v s).outcome = .ok report → report.released = 0 := by
  have hrefused : ∀ e, (refused e : Report ρ).released = 0 := fun e => rfl
  cases hselect : (Device.select config.deviceOrdinal v s.1).outcome with
  | ok u =>
      cases hreset : (setup config v s.1).outcome with
      | ok u => exact absurd hreset h
      | error e =>
          obtain ⟨houtcome, hstate⟩ := run_of_unreset watch job env hselect hreset
          refine ⟨hstate, fun report hreport => ?_⟩
          rw [houtcome] at hreport
          cases hreport
          exact hrefused e
      | panic p =>
          obtain ⟨houtcome, hstate⟩ := run_of_reset_panic watch job env hselect hreset
          refine ⟨hstate, fun report hreport => ?_⟩
          rw [houtcome] at hreport
          cases hreport
  | error e =>
      obtain ⟨houtcome, hstate⟩ := run_of_unselected watch job env hselect
      rw [hstate, setup, Act.bind_of_error hselect]
      refine ⟨rfl, fun report hreport => ?_⟩
      rw [houtcome] at hreport
      cases hreport
      exact hrefused _
  | panic p =>
      obtain ⟨houtcome, hstate⟩ := run_of_select_panic watch job env hselect
      rw [hstate, setup, Act.bind_of_panic hselect]
      refine ⟨rfl, fun report hreport => ?_⟩
      rw [houtcome] at hreport
      cases hreport

/-- A run that returns after a successful setup reports the number of addresses released. -/
theorem released_of_ready (h : (setup config v s.1).outcome = .ok ()) {report : Report ρ}
    (hrun : (run config watch job env v s).outcome = .ok report) :
    ∃ teardown, (Session.teardown v (final config job env v s).session).outcome = .ok teardown ∧
      report.released = teardown.released.length := by
  rw [(run_of_ready watch job env h).1, afterSetup] at hrun
  obtain ⟨reached, hscope, hrun⟩ := Act.bind_eq_ok.1 hrun
  obtain ⟨stage, -, hrun⟩ := Act.bind_eq_ok.1 hrun
  obtain ⟨u, -, hrun⟩ := Act.bind_eq_ok.1 hrun
  obtain ⟨teardown, hteardown, hreleased⟩ := session_eq_ok (scope_eq_ok hscope)
  cases hrun
  exact ⟨teardown, hteardown, hreleased⟩

/-- **A run releases what its programs leave**, however they end. -/
theorem run_state_of_ready (h : (setup config v s.1).outcome = .ok ()) :
    (run config watch job env v s).state =
      ((Session.teardown v (final config job env v s).session).state.device,
        (final config job env v s).host) := by
  rw [(run_of_ready watch job env h).2, afterSetup, Act.bind_state]
  · exact scope_session_state config watch job env _ v _ rfl
  · intro reached s
    rw [Act.bind_state, advance_state]
    intro stage s
    rw [Act.bind_state (fun _ _ => rfl), finished, Act.note_state]

end Run

end Run

end Offload
