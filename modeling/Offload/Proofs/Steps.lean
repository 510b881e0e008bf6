/-
**The steps of a run.**

A run is a sequence of parts: the device is selected and reset, the three programs of the job
follow, and in the end what the session still owns is released.  A part is begun only if the parts
that it needs have succeeded; the release needs the device and not the programs.  The course of a
run is this sequence, computed part by part, without stages, timings and reports.

Which programs a run really starts is seen from the marks that a marked job leaves on the host.

Main definitions:

* `Offload.Course`, `Offload.Run.course` — the parts that are begun, how each of them ends, and what
  is left;
* `Offload.Course.failure?` — the first failure;
* `Offload.Part.needs` — the parts that have to succeed before a part is begun.

Main results:

* `Offload.Run.mem_parts_iff` — **a part is begun iff every part that it needs succeeds**;
* `Offload.Run.output_isSome_iff` — there are results iff the last program succeeds;
* `Offload.Run.run_marks` — **a run starts the programs of its course**, and no others.
-/

import Offload.Proofs.Endings
import Offload.Proofs.Marks

set_option autoImplicit false

namespace Offload

namespace Outcome

variable {α : Type}

/-- Whether a call returned a value. -/
def isOk : Outcome α → Bool
  | ok _ => true
  | _ => false

@[simp] theorem isOk_ok (a : α) : (ok a).isOk = true := rfl

end Outcome

/-! ### The course of a run -/

/-- What a run does, step by step, and what is left of it. -/
structure Course (δ τ ρ : Type) where
  /-- The parts that are begun, in order, and how each of them ends. -/
  steps : List (Part × Outcome Unit)
  /-- The addresses that are freed in the end, in order, and how each call ends. -/
  frees : List (Address × Outcome Unit) := []
  output : Option (List ρ) := none
  state : δ × τ

namespace Course

variable {δ τ ρ : Type}

/-- The parts that are begun. -/
def parts (c : Course δ τ ρ) : List Part :=
  c.steps.map Prod.fst

/-- The failure of the first step that fails. -/
def failure? (c : Course δ τ ρ) : Option Failure :=
  c.steps.findSome? fun step => step.2.failure?

/-- Whether a part is begun and succeeds. -/
def succeeded (c : Course δ τ ρ) (p : Part) : Bool :=
  c.steps.any fun step => step.1 = p && step.2.isOk

theorem mem_parts_of_succeeded {c : Course δ τ ρ} {p : Part} (h : c.succeeded p = true) :
    p ∈ c.parts := by
  obtain ⟨step, hmem, hstep⟩ := List.any_eq_true.1 h
  simp only [Bool.and_eq_true, decide_eq_true_eq] at hstep
  exact List.mem_map.2 ⟨step, hmem, hstep.1⟩

end Course

/-- The parts that have to succeed before a part is begun.  A release does not wait for the programs
of the job. -/
def Part.needs : Part → List Part
  | select => []
  | reset => [select]
  | prepare => [select, reset]
  | launch => [select, reset, prepare]
  | copyBack => [select, reset, prepare, launch]
  | release => [select, reset]

/-- Whether a part is a program of the job. -/
def Part.isProgram : Part → Bool
  | prepare => true
  | launch => true
  | copyBack => true
  | _ => false

namespace Run

variable {δ τ ε σ ρ α : Type}

/-- What the programs of a job do, step by step. -/
structure Taken (δ τ ρ : Type) where
  steps : List (Part × Outcome Unit)
  output : Option (List ρ)
  workspace : Workspace δ τ

/-- One program and, if it succeeds, what follows it. -/
def Taken.first (part : Part) (r : Step (Workspace δ τ) α) (next : α → Taken δ τ ρ) :
    Taken δ τ ρ :=
  match r.outcome with
  | .ok a => { next a with steps := (part, .ok ()) :: (next a).steps }
  | .error e => ⟨[(part, .error e)], none, r.state⟩
  | .panic p => ⟨[(part, .panic p)], none, r.state⟩

section First

variable {part : Part} {r : Step (Workspace δ τ) α} {next : α → Taken δ τ ρ}

theorem Taken.first_of_ok {a : α} (h : r.outcome = .ok a) :
    first part r next = { next a with steps := (part, .ok ()) :: (next a).steps } := by
  rw [first, h]

theorem Taken.first_of_error {e : Failure} (h : r.outcome = .error e) :
    first part r next = ⟨[(part, .error e)], none, r.state⟩ := by
  rw [first, h]

theorem Taken.first_of_panic {p : Panic} (h : r.outcome = .panic p) :
    first part r next = ⟨[(part, .panic p)], none, r.state⟩ := by
  rw [first, h]

end First

variable [Device δ]

/-- The programs of a job, up to the first one that does not succeed. -/
def taken (job : Job τ ε σ ρ) (env : ε) (v : Verbosity) (w : Workspace δ τ) : Taken δ τ ρ :=
  let prepared := (job.prepare env).perform v w
  .first .prepare prepared fun staged =>
    let launched := (job.launch staged).perform v prepared.state
    .first .launch launched fun staged =>
      let copied := (job.copyBack staged).perform v launched.state
      .first .copyBack copied fun output => ⟨[], some output, copied.state⟩

/-- Frees addresses one after the other, whatever the device replies. -/
def freeEach (v : Verbosity) : List Address → δ → List (Address × Outcome Unit) × δ
  | [], d => ([], d)
  | a :: rest, d =>
      let r := Device.free a v d
      let later := freeEach v rest r.state
      ((a, r.outcome) :: later.1, later.2)

/-- The failure of the first free that fails. -/
def firstRefusal (frees : List (Address × Outcome Unit)) : Option Failure :=
  frees.findSome? fun free => free.2.failure?

/-- How a release ends: with its first refusal, if there is one. -/
def releaseOutcome (frees : List (Address × Outcome Unit)) : Outcome Unit :=
  match firstRefusal frees with
  | some e => .error e
  | none => .ok ()

/-- The course of a run: the device is selected and reset, the programs of the job follow, and what
they leave is freed. -/
def course (config : Config) (job : Job τ ε σ ρ) (env : ε) (v : Verbosity) (s : δ × τ) :
    Course δ τ ρ :=
  let selected := Device.select config.deviceOrdinal v s.1
  match selected.outcome with
  | .error e => {
      steps := [(.select, .error (e.asUnavailable config.deviceOrdinal))]
      state := (selected.state, s.2) }
  | .panic p => { steps := [(.select, .panic p)], state := (selected.state, s.2) }
  | .ok () =>
      let cleared := Device.reset v selected.state
      match cleared.outcome with
      | .error e => {
          steps := [(.select, .ok ()), (.reset, .error e)]
          state := (cleared.state, s.2) }
      | .panic p => {
          steps := [(.select, .ok ()), (.reset, .panic p)]
          state := (cleared.state, s.2) }
      | .ok () =>
          let left := taken job env v ⟨Session.start cleared.state config, s.2⟩
          let freed := freeEach v (left.workspace.session.tracked.map Allocation.address)
            left.workspace.session.device
          { steps := (.select, .ok ()) :: (.reset, .ok ()) ::
              (left.steps ++ [(.release, releaseOutcome freed.1)])
            frees := freed.1
            output := left.output
            state := (freed.2, left.workspace.host) }

section Course

variable {config : Config} {job : Job τ ε σ ρ} {env : ε} {v : Verbosity} {s : δ × τ}

theorem course_of_unselected {e : Failure}
    (h : (Device.select config.deviceOrdinal v s.1).outcome = .error e) :
    course config job env v s = {
      steps := [(.select, .error (e.asUnavailable config.deviceOrdinal))]
      state := ((Device.select config.deviceOrdinal v s.1).state, s.2) } := by
  simp only [course, h]

theorem course_of_select_panic {p : Panic}
    (h : (Device.select config.deviceOrdinal v s.1).outcome = .panic p) :
    course config job env v s = {
      steps := [(.select, .panic p)]
      state := ((Device.select config.deviceOrdinal v s.1).state, s.2) } := by
  simp only [course, h]

theorem course_of_unreset {e : Failure}
    (h : (Device.select config.deviceOrdinal v s.1).outcome = .ok ())
    (hreset : (setup config v s.1).outcome = .error e) :
    course config job env v s = {
      steps := [(.select, .ok ()), (.reset, .error e)]
      state := ((setup config v s.1).state, s.2) } := by
  rw [(setup_of_selected h).1] at hreset
  rw [(setup_of_selected h).2]
  simp only [course, h, hreset]

theorem course_of_reset_panic {p : Panic}
    (h : (Device.select config.deviceOrdinal v s.1).outcome = .ok ())
    (hreset : (setup config v s.1).outcome = .panic p) :
    course config job env v s = {
      steps := [(.select, .ok ()), (.reset, .panic p)]
      state := ((setup config v s.1).state, s.2) } := by
  rw [(setup_of_selected h).1] at hreset
  rw [(setup_of_selected h).2]
  simp only [course, h, hreset]

theorem course_of_ready (h : (setup config v s.1).outcome = .ok ()) :
    course config job env v s =
      let left := taken job env v (opening config v s)
      let freed := freeEach v (left.workspace.session.tracked.map Allocation.address)
        left.workspace.session.device
      { steps := (.select, .ok ()) :: (.reset, .ok ()) ::
          (left.steps ++ [(.release, releaseOutcome freed.1)])
        frees := freed.1
        output := left.output
        state := (freed.2, left.workspace.host) } := by
  have hselect := selected_of_ready h
  have hreset := h
  rw [(setup_of_selected hselect).1] at hreset
  simp only [course, opening, (setup_of_selected hselect).2, hselect, hreset]

end Course

/-! ### The order of the steps -/

/-- How far the programs of a job can get. -/
theorem taken_cases (job : Job τ ε σ ρ) (env : ε) (v : Verbosity) (w : Workspace δ τ) :
    (∃ x, x.isOk = false ∧ (taken job env v w).steps = [(.prepare, x)] ∧
        (taken job env v w).output = none) ∨
      (∃ x, x.isOk = false ∧ (taken job env v w).steps = [(.prepare, .ok ()), (.launch, x)] ∧
        (taken job env v w).output = none) ∨
      ∃ x, (taken job env v w).steps = [(.prepare, .ok ()), (.launch, .ok ()), (.copyBack, x)] ∧
        (taken job env v w).output.isSome = x.isOk := by
  unfold taken
  cases hprepare : ((job.prepare env).perform v w).outcome with
  | error e => exact Or.inl ⟨.error e, rfl, by rw [Taken.first_of_error hprepare], by
      rw [Taken.first_of_error hprepare]⟩
  | panic p => exact Or.inl ⟨.panic p, rfl, by rw [Taken.first_of_panic hprepare], by
      rw [Taken.first_of_panic hprepare]⟩
  | ok staged =>
      rw [Taken.first_of_ok hprepare]
      generalize ((job.prepare env).perform v w).state = w
      cases hlaunch : ((job.launch staged).perform v w).outcome with
      | error e => exact Or.inr (Or.inl ⟨.error e, rfl, by rw [Taken.first_of_error hlaunch], by
          rw [Taken.first_of_error hlaunch]⟩)
      | panic p => exact Or.inr (Or.inl ⟨.panic p, rfl, by rw [Taken.first_of_panic hlaunch], by
          rw [Taken.first_of_panic hlaunch]⟩)
      | ok staged =>
          rw [Taken.first_of_ok hlaunch]
          generalize ((job.launch _).perform v w).state = w
          refine Or.inr (Or.inr ?_)
          cases hcopy : ((job.copyBack staged).perform v w).outcome with
          | error e => exact ⟨.error e, by rw [Taken.first_of_error hcopy], by
              rw [Taken.first_of_error hcopy]; rfl⟩
          | panic p => exact ⟨.panic p, by rw [Taken.first_of_panic hcopy], by
              rw [Taken.first_of_panic hcopy]; rfl⟩
          | ok output => exact ⟨.ok (), by rw [Taken.first_of_ok hcopy], by
              rw [Taken.first_of_ok hcopy]; rfl⟩

/-- How far a run can get. -/
theorem course_cases (config : Config) (job : Job τ ε σ ρ) (env : ε) (v : Verbosity)
    (s : δ × τ) :
    (∃ x, x.isOk = false ∧ (course config job env v s).steps = [(.select, x)] ∧
        (course config job env v s).output = none) ∨
      (∃ x, x.isOk = false ∧
        (course config job env v s).steps = [(.select, .ok ()), (.reset, x)] ∧
        (course config job env v s).output = none) ∨
      ∃ (w : Workspace δ τ) (x : Outcome Unit), (course config job env v s).steps =
          (.select, .ok ()) :: (.reset, .ok ()) ::
            ((taken job env v w).steps ++ [(.release, x)]) ∧
        (course config job env v s).output = (taken job env v w).output := by
  cases hselect : (Device.select config.deviceOrdinal v s.1).outcome with
  | error e =>
      rw [course_of_unselected hselect]
      exact Or.inl ⟨_, rfl, rfl, rfl⟩
  | panic p =>
      rw [course_of_select_panic hselect]
      exact Or.inl ⟨.panic p, rfl, rfl, rfl⟩
  | ok u =>
      refine Or.inr ?_
      cases hreset : (setup config v s.1).outcome with
      | error e =>
          rw [course_of_unreset hselect hreset]
          exact Or.inl ⟨_, rfl, rfl, rfl⟩
      | panic p =>
          rw [course_of_reset_panic hselect hreset]
          exact Or.inl ⟨.panic p, rfl, rfl, rfl⟩
      | ok u =>
          rw [course_of_ready hreset]
          exact Or.inr ⟨opening config v s, _, rfl, rfl⟩

/-- **A part is begun iff every part that it needs succeeds.** -/
theorem mem_parts_iff (config : Config) (job : Job τ ε σ ρ) (env : ε) (v : Verbosity)
    (s : δ × τ) (p : Part) :
    p ∈ (course config job env v s).parts ↔
      ∀ q ∈ p.needs, (course config job env v s).succeeded q = true := by
  have hneeds : (∀ q ∈ p.needs, (course config job env v s).succeeded q = true) ↔
      p.needs.all (course config job env v s).succeeded = true := List.all_eq_true.symm
  rw [hneeds]
  unfold Course.parts Course.succeeded
  -- in each case the steps are a list that can be looked through, part by part
  rcases course_cases config job env v s with ⟨x, hx, hsteps, -⟩ | ⟨x, hx, hsteps, -⟩ |
    ⟨w, r, hsteps, -⟩
  · rw [hsteps]
    cases p <;> simp [Part.needs, hx]
  · rw [hsteps]
    cases p <;> simp [Part.needs, hx]
  · rw [hsteps]
    rcases taken_cases job env v w with ⟨x, hx, htaken, -⟩ | ⟨x, hx, htaken, -⟩ | ⟨x, htaken, -⟩
    · rw [htaken]
      cases p <;> simp [Part.needs, hx]
    · rw [htaken]
      cases p <;> simp [Part.needs, hx]
    · rw [htaken]
      cases p <;> simp [Part.needs]

/-- A part succeeds only if the parts that it needs do. -/
theorem succeeded_of_needs {config : Config} {job : Job τ ε σ ρ} {env : ε} {v : Verbosity}
    {s : δ × τ} {p q : Part} (h : (course config job env v s).succeeded p = true)
    (hq : q ∈ p.needs) : (course config job env v s).succeeded q = true :=
  (mem_parts_iff config job env v s p).1 (Course.mem_parts_of_succeeded h) q hq

/-- There are results iff the last program succeeds. -/
theorem output_isSome_iff (config : Config) (job : Job τ ε σ ρ) (env : ε) (v : Verbosity)
    (s : δ × τ) :
    (course config job env v s).output.isSome = true ↔
      (course config job env v s).succeeded .copyBack = true := by
  simp only [Course.succeeded]
  rcases course_cases config job env v s with ⟨x, hx, hsteps, houtput⟩ |
    ⟨x, hx, hsteps, houtput⟩ | ⟨w, r, hsteps, houtput⟩
  · rw [hsteps, houtput]
    simp
  · rw [hsteps, houtput]
    simp
  · rw [hsteps, houtput]
    rcases taken_cases job env v w with ⟨x, hx, htaken, hnone⟩ | ⟨x, hx, htaken, hnone⟩ |
      ⟨x, htaken, hsome⟩
    · rw [htaken, hnone]
      simp
    · rw [htaken, hnone]
      simp
    · rw [htaken, hsome]
      simp

/-! ### The programs that are started -/

/-- A marked program and what follows it leave the marks of the parts that are begun. -/
theorem marked_first {β : Type} {part : Part} {p : Program τ α}
    {k : α → Act (Workspace δ (τ × List Part)) β} {next : α → Taken δ τ ρ} {v : Verbosity}
    {w : Workspace δ (τ × List Part)}
    (hnext : ∀ a, (k a v (Program.perform (p.marked part) v w).state).state.host.2 =
      (Program.perform (p.marked part) v w).state.host.2 ++ (next a).steps.map Prod.fst) :
    ((Program.perform (p.marked part) >>= k) v w).state.host.2 =
      w.host.2 ++ (Taken.first part (p.perform v w.plain) next).steps.map Prod.fst := by
  have houtcome := (Program.marked_lifts part p).outcome v w
  have hhost := Program.marked_host part p v w
  cases h : (p.perform v w.plain).outcome with
  | ok a =>
      rw [Act.bind_of_ok (houtcome.symm.trans h), Step.after_state, hnext a, hhost,
        Taken.first_of_ok h, List.append_assoc]
      rfl
  | error e =>
      rw [Act.bind_of_error (houtcome.symm.trans h), hhost, Taken.first_of_error h]
      rfl
  | panic c =>
      rw [Act.bind_of_panic (houtcome.symm.trans h), hhost, Taken.first_of_panic h]
      rfl

/-- The script of a marked job leaves the marks of the programs that are started. -/
theorem script_marks (job : Job τ ε σ ρ) (env : ε) (v : Verbosity)
    (w : Workspace δ (τ × List Part)) :
    ((job.marked.script env).perform v w).state.host.2 =
      w.host.2 ++ (taken job env v w.plain).steps.map Prod.fst := by
  rw [perform_script]
  refine marked_first fun staged => ?_
  rw [(Program.marked_lifts .prepare (job.prepare env)).state v w]
  refine marked_first fun staged => ?_
  rw [(Program.marked_lifts .launch _).state v _, ← Act.bind_pure (Program.perform _)]
  refine marked_first fun output => ?_
  exact (List.append_nil _).symm

theorem taken_parts_isProgram (job : Job τ ε σ ρ) (env : ε) (v : Verbosity) (w : Workspace δ τ) :
    ((taken job env v w).steps.map Prod.fst).filter Part.isProgram =
      (taken job env v w).steps.map Prod.fst := by
  rcases taken_cases job env v w with ⟨x, -, hsteps, -⟩ | ⟨x, -, hsteps, -⟩ | ⟨x, hsteps, -⟩
  · rw [hsteps]
    rfl
  · rw [hsteps]
    rfl
  · rw [hsteps]
    rfl

/-- No program is started on a device that is not set up. -/
theorem programs_of_not_ready {config : Config} {job : Job τ ε σ ρ} {env : ε} {v : Verbosity}
    {s : δ × τ} (h : (setup config v s.1).outcome ≠ .ok ()) :
    (course config job env v s).parts.filter Part.isProgram = [] := by
  cases hselect : (Device.select config.deviceOrdinal v s.1).outcome with
  | error e => rw [course_of_unselected hselect]; rfl
  | panic p => rw [course_of_select_panic hselect]; rfl
  | ok u =>
      cases hreset : (setup config v s.1).outcome with
      | ok u => exact absurd hreset h
      | error e => rw [course_of_unreset hselect hreset]; rfl
      | panic p => rw [course_of_reset_panic hselect hreset]; rfl

/-- **A marked run leaves the marks of the programs in its course**, however it ends. -/
theorem run_marks (config : Config) (watch : Stopwatch) (job : Job τ ε σ ρ) (env : ε)
    (v : Verbosity) (s : δ × τ) :
    (run config watch job.marked env v (s.1, (s.2, []))).state.2.2 =
      (course config job env v s).parts.filter Part.isProgram := by
  by_cases hready : (setup config v s.1).outcome = .ok ()
  · rw [run_state_of_ready watch job.marked env (s := (s.1, (s.2, []))) hready,
      course_of_ready hready]
    change ((job.marked.script env).perform v (opening config v (s.1, (s.2, [])))).state.host.2 = _
    rw [script_marks]
    change [] ++ (taken job env v (opening config v s)).steps.map Prod.fst = _
    simp only [Course.parts, List.map_cons, List.map_append, List.map_nil, List.nil_append]
    -- of the parts around the programs, neither the setup nor the release leaves a mark
    rw [List.filter_cons_of_neg (by decide), List.filter_cons_of_neg (by decide),
      List.filter_append, taken_parts_isProgram, List.filter_cons_of_neg (by decide)]
    exact (List.append_nil _).symm
  · rw [(run_of_not_ready watch job.marked env (s := (s.1, (s.2, []))) hready).1,
      programs_of_not_ready hready]

end Run

end Offload
