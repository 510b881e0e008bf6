/-
**Runs on an emulated device.**

An emulated device returns from the calls that set it up and from those that free memory, so a run
on it panics only if a program of the job does, and then with the same panic.  In every other case
it reports its course.

A device that refuses no free is left with the buffers that it had before.  Behind the old buffers
lie those of the session, in the order of its list; the release at the end frees them one after the
other, whether the programs ended in order or in a panic.

Main results:

* `Offload.Run.run_of_script_panic` — a panic of a program is the panic of the run;
* `Offload.Run.run_cases` — **how a run on an emulated device ends**;
* `Offload.Run.abandon_outcome` — the release after a panic never panics itself;
* `Offload.Run.run_eq_complete`, `Offload.Run.run_of_script_ok` — **a run whose programs succeed
  reports their results**;
* `Offload.Run.layout_run` — **a run leaves the live buffers as they were**.
-/

import Offload.Proofs.Tracking

set_option autoImplicit false

namespace Offload

/-! ### Panics of programs -/

namespace Run

section Panic

variable {δ τ ε σ ρ α β : Type}

variable [Device δ]

end Panic

end Run

/-! ### Programs that succeed -/

namespace Run

/-- A script that succeeds has taken all its steps. -/
theorem taken_of_script_ok {δ τ ε σ ρ : Type} [Device δ] {job : Job τ ε σ ρ} {env : ε}
    {v : Verbosity} {w : Workspace δ τ} {output : List ρ}
    (h : ((job.script env).perform v w).outcome = .ok output) :
    (taken job env v w).steps =
        [(.prepare, .ok ()), (.launch, .ok ()), (.copyBack, .ok ())] ∧
      (taken job env v w).output = some output := by
  rw [perform_script] at h
  obtain ⟨staged, hprepare, h⟩ := Act.bind_eq_ok.1 h
  obtain ⟨staged', hlaunch, h⟩ := Act.bind_eq_ok.1 h
  unfold taken
  rw [Taken.first_of_ok hprepare, Taken.first_of_ok hlaunch, Taken.first_of_ok h]
  exact ⟨rfl, rfl⟩

end Run

/-! ### Setting up an emulated device -/

namespace Emulated

theorem select_of_present {ordinal : UInt32} {d : Emulated}
    (h : (d.faults.select || d.deviceCount ≤ ordinal) = false) (v : Verbosity) :
    select ordinal v d = ⟨.ok (), { d with selected := some ordinal }, []⟩ := by
  unfold select
  rw [Act.bind_of_ok (rfl : (Act.get v d).outcome = .ok d), if_neg (by rw [h]; decide)]
  rfl

theorem select_of_absent {ordinal : UInt32} {d : Emulated}
    (h : (d.faults.select || d.deviceCount ≤ ordinal) = true) (v : Verbosity) :
    select ordinal v d =
      ⟨.error (.deviceUnavailable ordinal s!"{d.deviceCount} emulated device(s) present"), d,
        []⟩ := by
  unfold select
  rw [Act.bind_of_ok (rfl : (Act.get v d).outcome = .ok d), if_pos h]
  rfl

theorem select_cases (ordinal : UInt32) (v : Verbosity) (d : Emulated) :
    (∃ e, select ordinal v d = ⟨.error e, d, []⟩) ∨
      select ordinal v d = ⟨.ok (), { d with selected := some ordinal }, []⟩ := by
  cases h : (d.faults.select || d.deviceCount ≤ ordinal) with
  | true => exact Or.inl ⟨_, select_of_absent h v⟩
  | false => exact Or.inr (select_of_present h v)

theorem reset_of_selected {d : Emulated} (h : d.selected.isNone = false)
    (hfault : d.faults.reset = none) (v : Verbosity) :
    reset v d = ⟨.ok (), { d with pending := [], contextReady := true }, []⟩ := by
  unfold reset
  rw [Act.bind_of_ok (rfl : (Act.get v d).outcome = .ok d), if_neg (by rw [h]; decide), hfault]
  rfl

theorem reset_cases (v : Verbosity) (d : Emulated) :
    (∃ e, reset v d = ⟨.error e, d, []⟩) ∨
      reset v d = ⟨.ok (), { d with pending := [], contextReady := true }, []⟩ := by
  cases hselected : d.selected.isNone with
  | true =>
      unfold reset
      rw [Act.bind_of_ok (rfl : (Act.get v d).outcome = .ok d), if_pos hselected]
      exact Or.inl ⟨_, rfl⟩
  | false =>
      cases hfault : d.faults.reset with
      | none => exact Or.inr (reset_of_selected hselected hfault v)
      | some status =>
          unfold reset
          rw [Act.bind_of_ok (rfl : (Act.get v d).outcome = .ok d),
            if_neg (by rw [hselected]; decide), hfault]
          exact Or.inl ⟨_, rfl⟩

end Emulated

namespace Run

variable {τ ε σ ρ : Type}

/-- What setting up an emulated device can do: fail, or make a context without launches. -/
theorem setup_cases (config : Config) (v : Verbosity) (d : Emulated) :
    (∃ e selected, (setup config v d).outcome = .error e ∧
        (setup config v d).state = { d with selected }) ∨
      ((setup config v d).outcome = .ok () ∧ (setup config v d).state =
        { d with selected := some config.deviceOrdinal, pending := [], contextReady := true }) := by
  unfold setup
  rcases Emulated.select_cases config.deviceOrdinal v d with ⟨e, hselect⟩ | hselect
  · have hcall : Device.select config.deviceOrdinal v d = ⟨.error e, d, []⟩ := hselect
    rw [Act.bind_of_error (by rw [hcall]), hcall]
    exact Or.inl ⟨e, d.selected, rfl, rfl⟩
  · have hcall : Device.select config.deviceOrdinal v d =
        ⟨.ok (), { d with selected := some config.deviceOrdinal }, []⟩ := hselect
    rw [Act.bind_of_ok (by rw [hcall]), hcall]
    rcases Emulated.reset_cases v { d with selected := some config.deviceOrdinal } with
      ⟨e, hreset⟩ | hreset
    · refine Or.inl ⟨e, some config.deviceOrdinal, ?_⟩
      exact ⟨congrArg Step.outcome hreset, congrArg Step.state hreset⟩
    · exact Or.inr ⟨congrArg Step.outcome hreset, congrArg Step.state hreset⟩

theorem setup_returns (config : Config) (v : Verbosity) (d : Emulated) :
    (setup config v d).outcome.returns = true := by
  rcases setup_cases config v d with ⟨e, -, h, -⟩ | ⟨h, -⟩
  · rw [h]
    rfl
  · rw [h]
    rfl

theorem layout_setup (config : Config) (v : Verbosity) (d : Emulated) :
    (setup config v d).state.layout = d.layout := by
  rcases setup_cases config v d with ⟨-, selected, -, h⟩ | ⟨-, h⟩
  · rw [h]
    rfl
  · rw [h]
    rfl

/-- The first of the buffers behind the old ones is freed, and the others stay. -/
theorem free_own {old rest : List Allocation} {a : Allocation} {d : Emulated} (hd : d.Ordered)
    (hready : d.ready = true) (hfault : d.faults.free = none)
    (hlayout : d.layout = old ++ a :: rest) (v : Verbosity) :
    (Emulated.free a.address v d).outcome = .ok () ∧
      (Emulated.free a.address v d).state.layout = old ++ rest := by
  have hlive : a.address ∈ d.live := by
    rw [← Emulated.map_address_layout, hlayout]
    simp
  have hok := Emulated.free_of_live hready hlive v
  rw [hfault] at hok
  refine ⟨hok, ?_⟩
  rcases Emulated.free_cases a.address v d with ⟨e, herror, -⟩ | ⟨memory, -, hrelease, -, hstate⟩
  · rw [herror] at hok
    cases hok
  · rw [hstate]
    change memory.layout = _
    rw [Memory.layout_release hrelease]
    change d.layout.filter _ = _
    have hnodup := hd.nodup
    rw [← Emulated.map_address_layout, hlayout] at hnodup
    rw [← Allocation.eraseP_eq_filter (by rw [hlayout]; exact hnodup), hlayout]
    have hnot : ∀ b ∈ old, ¬ decide (b.address = a.address) = true := by
      intro b hb heq
      rw [List.map_append, List.map_cons, List.nodup_append] at hnodup
      exact hnodup.2.2 b.address (List.mem_map_of_mem hb) a.address
        List.mem_cons_self (of_decide_eq_true heq)
    rw [List.eraseP_append_right _ hnot, List.eraseP_cons_of_pos (by simp)]

/-- Freeing the buffers behind the old ones leaves the old ones, and nothing is refused. -/
theorem freeEach_own (v : Verbosity) {old own : List Allocation} {d : Emulated}
    (hd : d.Ordered) (hready : d.ready = true) (hfault : d.faults.free = none)
    (hlayout : d.layout = old ++ own) :
    (freeEach v (own.map Allocation.address) d).2.layout = old ∧
      firstRefusal (freeEach v (own.map Allocation.address) d).1 = none := by
  induction own generalizing d with
  | nil =>
      rw [List.append_nil] at hlayout
      exact ⟨hlayout, rfl⟩
  | cons a rest ih =>
      obtain ⟨hok, hnext⟩ := free_own hd hready hfault hlayout v
      have hchange := Emulated.change_free a.address v d
      have hleft := ih (hd.change hchange) (hchange.ready hready)
        ((congrArg FaultPlan.free hchange.faults_eq).trans hfault) hnext
      refine ⟨hleft.1, ?_⟩
      have hreply : (Device.free a.address v d).outcome = .ok () := hok
      simp only [List.map_cons, freeEach, firstRefusal_cons, hreply]
      exact hleft.2

/-- The report of a run in which nothing failed. -/
def complete (watch : Stopwatch) (output : List ρ) (released : Nat) : Report ρ where
  timings := {
    setup := some (Duration.ofWord (watch .setup))
    prepareEnv := some (Duration.ofWord (watch .prepareEnv))
    kernel := some (Duration.ofWord (watch .kernel))
    freeMemory := some (Duration.ofWord (watch .freeMemory)) }
  released := released
  output := some output
  finalStage := .done

section Free

variable {config : Config} {v : Verbosity} {d : Emulated} (hd : d.Ordered)
  (hfault : d.faults.free = none) (hsetup : (setup config v d).outcome = .ok ())
  (job : Job τ ε σ ρ) (env : ε) (t : τ)

include hd hfault hsetup

/-- What the programs of a job leave is freed without a refusal, and the old buffers stay. -/
theorem freeEach_final :
    let left := (final config job env v (d, t)).session
    let freed := freeEach v (left.tracked.map Allocation.address) left.device
    freed.2.layout = d.layout ∧ firstRefusal freed.1 = none := by
  intro left freed
  have hleads := leads_setup config v d
  have hold := hleads.ordered hd
  -- the session has agreed with its device from the start
  obtain ⟨made, hagrees⟩ := (job.script env).agrees_perform (w := opening config v (d, t)) hold v
    (Session.agrees_start hold config)
  have hfault' : (setup config v d).state.faults.free = none := by
    rw [hleads.faults]
    exact hfault
  obtain ⟨own, hlayout, -, -, hall⟩ := hagrees.own
  rw [hall hfault', layout_setup] at hlayout
  refine freeEach_own v hagrees.ordered ?_ ?_ hlayout
  · refine ((job.script env).leads_perform v _).ready ?_
    change (setup config v d).state.ready = true
    rcases setup_cases config v d with ⟨e, -, herror, -⟩ | ⟨-, hstate⟩
    · rw [herror] at hsetup
      cases hsetup
    · rw [hstate]
      rfl
  · exact (congrArg FaultPlan.free hagrees.faults).trans hfault'

/-- A run whose programs succeed is complete. -/
theorem run_eq_complete {output : List ρ}
    (hscript : ((job.script env).perform v (opening config v (d, t))).outcome = .ok output)
    (watch : Stopwatch) :
    (run config watch job env v (d, t)).outcome =
      .ok (complete watch output (final config job env v (d, t)).session.tracked.length) := by
  have hreturns :
      ((job.script env).perform v (opening config v (d, t))).outcome.returns = true := by
    rw [hscript]
    rfl
  obtain ⟨hrun, -⟩ := run_eq_course (s := (d, t)) (setup_returns config v d) hreturns
    Emulated.free_returns watch
  obtain ⟨hsteps, houtput⟩ := taken_of_script_ok hscript
  have hworkspace : (taken job env v (opening config v (d, t))).workspace =
      final config job env v (d, t) := taken_workspace hreturns
  have hrefusal := (freeEach_final hd hfault hsetup job env t).2
  rw [hrun, course_of_ready (s := (d, t)) hsetup]
  simp only [Course.report, Course.failure?, Course.timed, Course.succeeded, hsteps, houtput,
    hworkspace, releaseOutcome, hrefusal, length_freeEach, List.length_map]
  rfl

/-- **A run whose programs succeed reports their results and no failure**, and releases what they
leave. -/
theorem run_of_script_ok {output : List ρ}
    (hscript : ((job.script env).perform v (opening config v (d, t))).outcome = .ok output)
    (watch : Stopwatch) :
    ∃ report, (run config watch job env v (d, t)).outcome = .ok report ∧
      report.error = .success ∧ report.failure = none ∧ report.output = some output ∧
      report.released = (final config job env v (d, t)).session.tracked.length :=
  ⟨_, run_eq_complete hd hfault hsetup job env t hscript watch, rfl, rfl, rfl, rfl⟩

end Free

/-- **A run leaves the live buffers as they were**, however it ends, if the device refuses no
free. -/
theorem layout_run (config : Config) (watch : Stopwatch) (job : Job τ ε σ ρ) (env : ε)
    (v : Verbosity) {d : Emulated} (t : τ) (hd : d.Ordered) (hfault : d.faults.free = none) :
    (run config watch job env v (d, t)).state.1.layout = d.layout := by
  rcases setup_cases config v d with ⟨e, -, hsetup, -⟩ | ⟨hsetup, -⟩
  · have hnot : (setup config v d).outcome ≠ .ok () := by
      rw [hsetup]
      intro h
      cases h
    rw [(run_of_not_ready watch job env (s := (d, t)) hnot).1]
    exact layout_setup config v d
  · rw [run_state_of_ready watch job env (s := (d, t)) hsetup,
      (teardown_frees Emulated.free_returns v _).2]
    exact (freeEach_final hd hfault hsetup job env t).1

end Run

end Offload
