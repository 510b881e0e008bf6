/-
**Injected faults in a run.**

The programs of a job may meet a fault, and so may the setup before them and the release behind
them.  A run reports the first failure of them all.  For the affine job everything that can go wrong
on a new device is a list of ten entries, in the order in which the run comes to them, and the first
entry that applies is what the run reports.

Whatever it reports, a run on a new device frees everything that it allocates, unless the device
refuses every free; then everything that it allocates stays live.

Main definitions:

* `Offload.Report.Shows` — a report of a failure, or of results;
* `Offload.Reference.affineFaults` — what can go wrong in a run of the affine job, in order.

Main results:

* `Offload.Run.run_of_script_error` — **a run reports the failure of its programs**;
* `Offload.Run.remains` — **what a run of any job leaves on a new device**;
* `Offload.Reference.affine_armed` — how the programs of the affine job end under a plan;
* `Offload.Reference.faults_surface_in_order` — **the report and the remains of a run of the affine
  job under any plan**.
-/

import Offload.Proofs.AffineUnit
import Offload.Proofs.FaultPlans

set_option autoImplicit false

namespace Offload

/-! ### Runs -/

/-- The programs of a job with one kernel unit run that unit. -/
theorem Reference.script_unitJob {τ ε ρ : Type} [Pod ε] [Pod ρ] (unit : ε → KernelUnit ε ρ)
    (env : ε) : ((unitJob unit).script env : Program τ (List ρ)) = (unit env).invoke env := by
  have hscript : ((unitJob unit).script env : Program τ (List ρ)) =
      ((unit env).launch env >>= fun output => pure (env, some output)) >>=
        fun staged => copyBack staged.2 := rfl
  rw [hscript, Dialogue.bind_assoc]
  rfl

/-- A report of a failure, if there is one, and of results otherwise. -/
structure Report.Shows {ρ : Type} (failure? : Option Failure) (output : List ρ)
    (report : Report ρ) : Prop where
  error : report.error = (failure?.map Failure.status).getD .success
  failure : report.failure = failure?.map Failure.message
  output : report.output = if failure?.isNone then some output else none

theorem Report.Shows.success_iff {ρ : Type} {failure? : Option Failure} {output : List ρ}
    {report : Report ρ} (h : report.Shows failure? output) :
    report.error = .success ↔ failure? = none := by
  rw [h.error]
  cases failure? with
  | some e => exact ⟨fun he => absurd he e.status_ne_success, fun he => nomatch he⟩
  | none => exact ⟨fun _ => rfl, fun _ => rfl⟩

theorem Report.Shows.refused {ρ : Type} (e : Failure) (output : List ρ) :
    Shows (some e) output (Run.refused e) :=
  ⟨rfl, rfl, rfl⟩

theorem Emulated.reset_of_fault {d : Emulated} (h : d.selected.isNone = false) {status : Int32}
    (hfault : d.faults.reset = some status) (v : Verbosity) :
    reset v d = ⟨.error (.deviceCall .reset status), d, []⟩ := by
  unfold reset
  rw [Act.bind_of_ok (rfl : (Act.get v d).outcome = .ok d), if_neg (by rw [h]; decide), hfault]
  rfl

namespace Run

variable {τ ε σ ρ : Type}

/-- A script that fails has failed in one of its steps, and without results. -/
theorem taken_of_script_error {δ : Type} [Device δ] {job : Job τ ε σ ρ} {env : ε} {v : Verbosity}
    {w : Workspace δ τ} {e : Failure} (h : ((job.script env).perform v w).outcome = .error e) :
    (taken job env v w).failure? = some e ∧ (taken job env v w).output = none := by
  rw [perform_script] at h
  unfold taken
  rcases Act.bind_eq_error.1 h with hprepare | ⟨staged, hprepare, h⟩
  · rw [Taken.first_of_error hprepare]
    exact ⟨rfl, rfl⟩
  rw [Taken.first_of_ok hprepare]
  rcases Act.bind_eq_error.1 h with hlaunch | ⟨staged', hlaunch, hcopy⟩
  · rw [Taken.first_of_error hlaunch]
    exact ⟨rfl, rfl⟩
  rw [Taken.first_of_ok hlaunch, Taken.first_of_error hcopy]
  exact ⟨rfl, rfl⟩

/-- **A run reports the failure of its programs**, whatever the release meets after it. -/
theorem run_of_script_error {config : Config} {job : Job τ ε σ ρ} {env : ε} {v : Verbosity}
    {d : Emulated} {t : τ} {e : Failure} (hsetup : (setup config v d).outcome = .ok ())
    (hscript : ((job.script env).perform v (opening config v (d, t))).outcome = .error e)
    (watch : Stopwatch) :
    ∃ report, (run config watch job env v (d, t)).outcome = .ok report ∧
      report.error = e.status ∧ report.failure = some e.message ∧ report.output = none := by
  have hreturns :
      ((job.script env).perform v (opening config v (d, t))).outcome.returns = true := by
    rw [hscript]
    rfl
  obtain ⟨hrun, -⟩ := run_eq_course (s := (d, t)) (setup_returns config v d) hreturns
    Emulated.free_returns watch
  obtain ⟨hfailed, houtput⟩ := taken_of_script_error hscript
  have hcourse : course config job env v (d, t) = _ := course_of_ready (s := (d, t)) hsetup
  have hfailure : (course config job env v (d, t)).failure? = some e := by
    rw [hcourse, Course.failure?, List.findSome?_cons_of_isNone rfl,
      List.findSome?_cons_of_isNone rfl, List.findSome?_append]
    change (Taken.failure? _).or _ = _
    rw [hfailed, Option.some_or]
  refine ⟨_, hrun, ?_, ?_, ?_⟩
  · simp only [Course.report, hfailure, Option.map_some, Option.getD_some]
  · simp only [Course.report, hfailure, Option.map_some]
  · simp only [Course.report, hcourse, houtput]

/-- A session opens on a device with a plan that lets it, as it opens without the plan. -/
theorem opening_armed {config : Config} {d : Emulated} {plan : FaultPlan}
    (hselect : (d.faults.select || d.deviceCount ≤ config.deviceOrdinal) = false)
    (hreset : d.faults.reset = none) (hplan : plan.select = false) (hplan' : plan.reset = none)
    (v : Verbosity) (t : τ) :
    (setup config v (d.armed plan)).outcome = .ok () ∧
      opening config v (d.armed plan, t) = (opening config v (d, t)).armed plan := by
  have hpresent : ((d.armed plan).faults.select ||
      (d.armed plan).deviceCount ≤ config.deviceOrdinal) = false := by
    rw [Bool.or_eq_false_iff] at hselect ⊢
    exact ⟨hplan, hselect.2⟩
  have harmed := setup_of_able (d := d.armed plan) hpresent hplan' v
  have hplain := setup_of_able hselect hreset v
  unfold opening
  rw [harmed, hplain]
  exact ⟨rfl, rfl⟩

end Run

/-! ### What a run leaves -/

namespace Emulated

variable {d d' : Emulated} {plan : FaultPlan} {past : List Allocation}

/-- A device that refuses every free notes none. -/
theorem Change.freed_of_refused {g : Option Allocation} (h : Change d g d') {status : Int32}
    (hfault : d.faults.free = some status) :
    d'.stats.frees = d.stats.frees ∧ d'.stats.freeOrder = d.stats.freeOrder := by
  cases h with
  | released address memory hready hrelease hfree =>
      rw [hfault] at hfree
      cases hfree
  | _ => exact ⟨rfl, rfl⟩

theorem Leads.freed_of_refused (h : Leads d d') {status : Int32}
    (hfault : d.faults.free = some status) :
    d'.stats.frees = d.stats.frees ∧ d'.stats.freeOrder = d.stats.freeOrder := by
  induction h with
  | rest => exact ⟨rfl, rfl⟩
  | call hleads v c ih =>
      have hkept := ((Operation.call c).change v _).freed_of_refused
        ((congrArg FaultPlan.free hleads.faults).trans hfault)
      exact ⟨hkept.1.trans ih.1, hkept.2.trans ih.2⟩

theorem Leads.kept (h : Leads d d') (hd : Kept plan past d) : ∃ past', Kept plan past' d' :=
  h.keeps (I := fun d => ∃ past, Kept plan past d)
    (fun ⟨_, hkept⟩ hchange => ⟨_, hkept.change hchange⟩) ⟨past, hd⟩

end Emulated

/-- **What a run of any job leaves on a device that has allocated nothing before**: everything is
freed, unless the device refuses every free, and then everything that was allocated is live. -/
theorem Run.remains {τ ε σ ρ : Type} {plan : FaultPlan} {d : Emulated} (hd : d.Ordered)
    (hkept : d.Kept plan []) (config : Config) (watch : Stopwatch) (job : Job τ ε σ ρ) (env : ε)
    (v : Verbosity) (t : τ) :
    let left := (run config watch job env v (d, t)).state.1
    (plan.free = none ∨ left.stats.allocations = 0 →
        left.stats.allocations = left.stats.frees ∧ left.live = []) ∧
      (plan.free ≠ none → left.stats.frees = 0 ∧ left.live = left.stats.allocOrder ∧
        left.liveAllocations = left.stats.allocations) := by
  intro left
  have hleads : d.Leads left := leads_run config watch job env v d t
  obtain ⟨past, hleft⟩ := hleads.kept hkept
  have hbalance := hleft.ledger.live_length hleft.spaced
  rw [left.liveAllocations_eq] at hbalance ⊢
  have hissued : d.stats.allocOrder = [] := hkept.ledger.issued
  have hfreed : d.stats.freeOrder = [] := by
    have hsubset := hkept.ledger.freed_subset
    rw [hissued] at hsubset
    exact List.subset_nil.1 hsubset
  refine ⟨fun h => ?_, fun hfault => ?_⟩
  · have hempty : left.live = [] := by
      rcases h with hfault | hnothing
      · -- nothing was live before, and the run leaves the live buffers as they were
        have hlive : d.live = [] := by
          rw [hkept.ledger.live_eq, hissued]
          rfl
        have hlayout := layout_run config watch job env v t hd
          ((congrArg FaultPlan.free hkept.budgeted.faults_eq).trans hfault)
        rw [← Emulated.map_address_layout, hlayout, Emulated.map_address_layout, hlive]
      · exact List.length_eq_zero_iff.1 (by omega)
    rw [hempty, List.length_nil, Nat.zero_add] at hbalance
    exact ⟨hbalance.symm, hempty⟩
  · obtain ⟨status, hstatus⟩ := Option.ne_none_iff_exists'.1 hfault
    obtain ⟨hfrees, hnone⟩ := hleads.freed_of_refused
      ((congrArg FaultPlan.free hkept.budgeted.faults_eq).trans hstatus)
    rw [hkept.ledger.frees, hfreed, List.length_nil] at hfrees
    rw [hfrees, Nat.add_zero] at hbalance
    refine ⟨hfrees, ?_, hbalance⟩
    rw [hleft.ledger.live_eq, hnone, hfreed]
    simp

/-! ### The affine job -/

/-- The fault of the allocation with this number, counted from zero. -/
def FaultPlan.allocationAt (plan : FaultPlan) (number : Nat) : Option Failure :=
  (plan.allocation.filter fun fault => fault.1 = number).map fun fault =>
    .deviceCall .allocate fault.2

namespace Reference

/-- What can go wrong in a run of the affine job on a new device with a plan of faults, in order.  A
job without results is an invalid input, reported with the status 1. -/
def affineFaults (plan : FaultPlan) (count : UInt32) : List (Option Failure) := [
  if plan.select then some (.deviceUnavailable 0 "1 emulated device(s) present") else none,
  plan.reset.map (.deviceCall .reset),
  if count = 0 then some (.invalidInput (.emptyResult affineName)) else none,
  plan.allocationAt 0,
  plan.copyToDevice.map (.deviceCall .copyToDevice),
  plan.allocationAt 1,
  plan.launch.map (.deviceCall .launch),
  plan.synchronize.map (.deviceCall .synchronize),
  plan.free.map (.deviceCall .free),
  plan.copyFromDevice.map (.deviceCall .copyFromDevice)]

section Setup

variable {τ ε σ ρ : Type} {plan : FaultPlan} {status : Int32} (v : Verbosity) (t : τ)
  (watch : Stopwatch) (job : Job τ ε σ ρ) (env : ε)

theorem run_of_select_fault (hselect : plan.select = true) :
    (run {} watch job env v (device.armed plan, t)).outcome =
      .ok (Run.refused (.deviceUnavailable 0 "1 emulated device(s) present")) := by
  have habsent : ((device.armed plan).faults.select ||
      (device.armed plan).deviceCount ≤ ({} : Config).deviceOrdinal) = true := by
    rw [Bool.or_eq_true]
    exact Or.inl hselect
  have hcount : (device.armed plan).deviceCount = 1 := rfl
  have hmessage : toString (1 : UInt32) ++ toString " emulated device(s) present" =
      "1 emulated device(s) present" := by decide
  have hcall := congrArg Step.outcome (Emulated.select_of_absent habsent v)
  rw [hcount, hmessage] at hcall
  exact (Run.run_of_unselected (s := (device.armed plan, t)) watch job env hcall).1

theorem run_of_reset_fault (hselect : plan.select = false) (hreset : plan.reset = some status) :
    (run {} watch job env v (device.armed plan, t)).outcome =
      .ok (Run.refused (.deviceCall .reset status)) := by
  have hpresent : ((device.armed plan).faults.select ||
      (device.armed plan).deviceCount ≤ ({} : Config).deviceOrdinal) = false := by
    rw [Bool.or_eq_false_iff]
    exact ⟨hselect, rfl⟩
  have hchosen := Run.select_of_able hpresent v
  have hsetup : (Run.setup {} v (device.armed plan)).outcome =
      .error (.deviceCall .reset status) := by
    unfold Run.setup
    rw [Act.bind_of_ok (by rw [hchosen]), hchosen]
    exact congrArg Step.outcome
      (Emulated.reset_of_fault (d := Run.chosen {} (device.armed plan)) rfl hreset v)
  exact (Run.run_of_unreset (s := (device.armed plan, t)) watch job env (by rw [hchosen]) hsetup).1

end Setup

variable {plan : FaultPlan} {count : UInt32}

/-- A plan that lets a session open and a unit with results: the two allocations of the unit are
those with the numbers zero and one. -/
theorem findSome?_affineFaults (hselect : plan.select = false) (hreset : plan.reset = none)
    (hcount : count ≠ 0) :
    (affineFaults plan count).findSome? id = (plan.unitFaults 0).findSome? id := by
  -- a plan refuses all allocations from its number on, but the first refusal ends the job
  have hboth : plan.allocating 0 = plan.allocationAt 0 ∧
      (plan.allocationAt 0 = none → plan.allocating 1 = plan.allocationAt 1) := by
    unfold FaultPlan.allocating FaultPlan.allocationAt
    cases plan.allocation with
    | none => exact ⟨rfl, fun _ => rfl⟩
    | some fault =>
        obtain ⟨number, status⟩ := fault
        rcases number with _ | _ | number
        · exact ⟨rfl, fun h => nomatch h⟩
        · exact ⟨rfl, fun _ => rfl⟩
        · exact ⟨rfl, fun _ => rfl⟩
  obtain ⟨hzero, hone⟩ := hboth
  simp only [affineFaults, FaultPlan.unitFaults, FaultPlan.findSome?_id_cons, hselect, hreset,
    if_neg hcount, hzero, Bool.false_eq_true, if_false, Option.map_none, Option.none_or,
    Nat.zero_add]
  cases hfirst : plan.allocationAt 0 with
  | some e => rfl
  | none => rw [hone hfirst]

section NewDevice

variable {τ : Type} (env : AffineEnv) (v : Verbosity) (t : τ)

/-- Without faults the affine job succeeds on a new device, if it has results. -/
theorem affine_on_new (hcount : env.count ≠ 0) :
    ((affineJob.script env).perform v (Run.opening {} v (device, t))).outcome =
      .ok ((List.range env.count.toNat).map (affineValue env)) := by
  have hserves : (Run.opening {} v (device, t)).Serves {} (Run.opened {} device).kernels
      (Run.opened {} device).memory [] [] :=
    Run.serves_opening rfl rfl v atRest_device.ordered rfl rfl t
  have hready : Ready (Run.opened {} device) env.count.toNat := by
    have hlt := env.count.toNat_lt_size
    refine ⟨⟨rfl, rfl, rfl⟩, rfl, rfl, fun hzero => hcount (UInt32.toNat_inj.1 hzero), ?_, ?_⟩
    · have hlargest : UInt32.size * 4 ≤ Memory.largestBuffer := by decide
      exact Nat.le_trans (Nat.mul_le_mul_right 4 (Nat.le_of_lt hlt)) hlargest
    · have hreserve : Memory.reserve (env.count.toNat * 4) ≤ UInt32.size * 4 + 256 := by
        unfold Memory.reserve Memory.alignment
        omega
      have hroom : (Run.opened {} device).frontier + Memory.reserve 16 + (UInt32.size * 4 + 256) <
          Word.bound := by decide +kernel
      exact Nat.lt_of_le_of_lt (Nat.add_le_add_left hreserve _) hroom
  obtain ⟨w, hscript, -⟩ := affine_script_yields (v := v) env hserves hready
  exact hscript

/-- Without results the affine job fails before it asks for anything. -/
theorem affine_of_empty (hcount : env.count = 0) (w : Workspace Emulated τ) :
    ((affineJob.script env).perform v w).outcome =
      .error (.invalidInput (.emptyResult affineName)) := by
  have hempty : (affineUnit env.count).count = 0 := by
    rw [hcount]
    rfl
  rw [affineJob, script_unitJob, KernelUnit.invoke, KernelUnit.launch, if_pos hempty]
  rfl

/-- How the programs of the affine job end on a new device with a plan that lets a session open. -/
theorem affine_armed (plan : FaultPlan) (hselect : plan.select = false)
    (hreset : plan.reset = none) :
    let outcome := ((affineJob.script env).perform v
      (Run.opening {} v (device.armed plan, t))).outcome
    (∀ e, (affineFaults plan env.count).findSome? id = some e → outcome = .error e) ∧
      ((affineFaults plan env.count).findSome? id = none →
        outcome = .ok ((List.range env.count.toNat).map (affineValue env))) := by
  intro outcome
  by_cases hcount : env.count = 0
  · -- nothing is asked for, so no fault of a call is met
    have hempty : outcome = .error (.invalidInput (.emptyResult affineName)) :=
      affine_of_empty env v hcount _
    have hfirst : (affineFaults plan env.count).findSome? id =
        some (.invalidInput (.emptyResult affineName)) := by
      simp only [affineFaults, FaultPlan.findSome?_id_cons, hselect, hreset, hcount,
        Bool.false_eq_true, if_false, if_true, Option.map_none, Option.none_or, Option.some_or]
    rw [hfirst, hempty]
    exact ⟨fun e he => congrArg Outcome.error (Option.some.inj he), fun hnone => nomatch hnone⟩
  · have hplain := affine_on_new env v t hcount
    have hmeets : Act.Meets (Workspace.armed plan) ((plan.unitFaults 0).findSome? id)
        (Program.perform (affineJob.script env)) v (Run.opening {} v (device, t)) := by
      have hmade : (Run.opening {} v (device, t)).session.device.stats.allocations = 0 := by
        unfold Run.opening
        rw [Run.setup_of_able rfl rfl v]
        rfl
      rw [affineJob, script_unitJob] at hplain ⊢
      have hunit := KernelUnit.meets_invoke plan hplain
      rwa [hmade] at hunit
    have hopening : Run.opening {} v (device.armed plan, t) =
        (Run.opening {} v (device, t)).armed plan :=
      (Run.opening_armed rfl rfl hselect hreset v t).2
    have houtcome : outcome = _ :=
      congrArg (fun w => ((affineJob.script env).perform v w).outcome) hopening
    rw [findSome?_affineFaults hselect hreset hcount, houtcome]
    exact ⟨hmeets.stopped, fun hnone => (hmeets.passed hnone).1.trans hplain⟩

/-- The report of a run of the affine job on a new device with a plan. -/
theorem affine_reports (plan : FaultPlan) (watch : Stopwatch) :
    ∃ report, (run {} watch affineJob env v (device.armed plan, t)).outcome = .ok report ∧
      report.Shows ((affineFaults plan env.count).findSome? id)
        ((List.range env.count.toNat).map (affineValue env)) := by
  cases hselect : plan.select with
  | true =>
      have hfirst : (affineFaults plan env.count).findSome? id =
          some (.deviceUnavailable 0 "1 emulated device(s) present") := by
        simp only [affineFaults, FaultPlan.findSome?_id_cons, hselect, if_true, Option.some_or]
      rw [hfirst]
      exact ⟨_, run_of_select_fault v t watch affineJob env hselect, .refused _ _⟩
  | false =>
      cases hreset : plan.reset with
      | some status =>
          have hfirst : (affineFaults plan env.count).findSome? id =
              some (.deviceCall .reset status) := by
            simp only [affineFaults, FaultPlan.findSome?_id_cons, hselect, hreset,
              Bool.false_eq_true, if_false, Option.map_some, Option.none_or, Option.some_or]
          rw [hfirst]
          exact ⟨_, run_of_reset_fault v t watch affineJob env hselect hreset, .refused _ _⟩
      | none =>
          have hsetup : (Run.setup {} v (device.armed plan)).outcome = .ok () :=
            (Run.opening_armed rfl rfl hselect hreset v t).1
          obtain ⟨hstopped, hpassed⟩ := affine_armed env v t plan hselect hreset
          cases hfirst : (affineFaults plan env.count).findSome? id with
          | some e =>
              obtain ⟨report, hrun, herror, hfailure, houtput⟩ :=
                Run.run_of_script_error hsetup (hstopped e hfirst) watch
              exact ⟨report, hrun, herror, hfailure, houtput⟩
          | none =>
              -- the release at the end is not refused either
              have hfree : plan.free = none := by
                have hall := List.findSome?_eq_none_iff.1 hfirst
                  (plan.free.map (.deviceCall .free)) (by simp [affineFaults])
                exact Option.map_eq_none_iff.1 hall
              obtain ⟨report, hrun, herror, hfailure, houtput, -⟩ := Run.run_of_script_ok
                (reachable_device.refitted none plan).ordered hfree hsetup affineJob env t
                (hpassed hfirst) watch
              exact ⟨report, hrun, herror, hfailure, houtput⟩

end NewDevice

/-- **Faults surface in the order in which a run meets them.**

Take a new device with the reference kernels and any plan of faults, and run the affine job on it
for any environment.  The run reports the first entry of `affineFaults` that applies.  It succeeds
iff there is none, and then returns all the values that the environment asks for; an allocation
fault with a number above one is no entry.  Afterwards as much is freed as was allocated and nothing
is live, unless frees are refused and something was allocated; then everything that was allocated is
live. -/
theorem faults_surface_in_order {τ : Type} (plan : FaultPlan) (env : AffineEnv)
    (watch : Stopwatch) (v : Verbosity) (t : τ) :
    let first := (affineFaults plan env.count).findSome? id
    let done := run {} watch affineJob env v (device.armed plan, t)
    let left := done.state.1
    (∃ report, done.outcome = .ok report ∧
        report.error = (first.map Failure.status).getD .success ∧
        report.failure = first.map Failure.message ∧
        report.output = (if first.isNone then
          some ((List.range env.count.toNat).map (affineValue env)) else none) ∧
        (report.error = .success ↔ first = none)) ∧
      (plan.free = none ∨ left.stats.allocations = 0 →
        left.stats.allocations = left.stats.frees ∧ left.live = []) ∧
      (plan.free ≠ none → left.stats.frees = 0 ∧ left.live = left.stats.allocOrder ∧
        left.liveAllocations = left.stats.allocations) := by
  intro first done left
  have hd : (device.armed plan).Ordered := (reachable_device.refitted none plan).ordered
  have hkept : (device.armed plan).Kept plan [] := Emulated.kept_after 1 none plan .off
    [.register doubleName doubleValue, .register affineName affineIndex]
  refine ⟨?_, Run.remains hd hkept {} watch affineJob env v t⟩
  obtain ⟨report, hrun, hshows⟩ := affine_reports env v t plan watch
  exact ⟨report, hrun, hshows.error, hshows.failure, hshows.output, hshows.success_iff⟩

/-- A device that refuses the launch and every free keeps both buffers; one that refuses the first
copy and the synchronization fails with the copy and keeps nothing. -/
theorem faults_surface_at_launch_and_copy :
    let env : AffineEnv := { scale := ⟨0x40000000⟩, offset := ⟨0x3f800000⟩, count := 3 }
    let harsh : FaultPlan := {
      allocation := some (2, 2), launch := some 7, free := some 9, copyFromDevice := some 5 }
    let mild : FaultPlan := { copyToDevice := some 4, synchronize := some 6 }
    let done := fun plan : FaultPlan =>
      run {} (fun _ => 0) affineJob env .off (device.armed plan, ())
    (∃ report, (done harsh).outcome = .ok report ∧ report.error = .deviceApi 7 ∧
        report.output = none) ∧
      (done harsh).state.1.stats.allocations = 2 ∧ (done harsh).state.1.stats.frees = 0 ∧
      (done harsh).state.1.liveAllocations = (done harsh).state.1.stats.allocations ∧
      (∃ report, (done mild).outcome = .ok report ∧ report.error = .deviceApi 4 ∧
        report.output = none) ∧
      (done mild).state.1.stats.allocations = 1 ∧
      (done mild).state.1.stats.allocations = (done mild).state.1.stats.frees ∧
      (done mild).state.1.live = [] := by
  intro env harsh mild done
  have hlaunch : (affineFaults harsh env.count).findSome? id = some (.deviceCall .launch 7) := by
    decide
  have hcopy : (affineFaults mild env.count).findSome? id = some (.deviceCall .copyToDevice 4) := by
    decide
  obtain ⟨⟨report, hrun, herror, -, houtput, -⟩, -, hrefused⟩ :=
    faults_surface_in_order harsh env (fun _ => 0) .off ()
  obtain ⟨⟨report', hrun', herror', -, houtput', -⟩, hreleased, -⟩ :=
    faults_surface_in_order mild env (fun _ => 0) .off ()
  rw [hlaunch] at herror houtput
  rw [hcopy] at herror' houtput'
  obtain ⟨hfrees, -, hlive⟩ := hrefused nofun
  obtain ⟨hbalance, hempty⟩ := hreleased (Or.inl rfl)
  have hboth : (done harsh).state.1.stats.allocations = 2 := by decide +kernel
  have hone : (done mild).state.1.stats.allocations = 1 := by decide +kernel
  simp only [done] at hboth hone ⊢
  exact ⟨⟨report, hrun, herror, houtput⟩, hboth, hfrees, hlive,
    ⟨report', hrun', herror', houtput'⟩, hone, hbalance, hempty⟩

end Reference

end Offload
