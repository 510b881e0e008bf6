/-
**Sessions do not see each other.**

A device may be used for any number of runs, one after the other, and some of them end badly: they
fail, they panic, or they leave launches in the queue that nobody waited for.  What a run leaves on
a device that refuses nothing is the address counter, the queue and some counts, but no buffer.  The
next run resets the device before it opens its session, so it starts with an empty queue, and its
own buffers get addresses that were never given out before.

A doubling run then finds the device as if it were new, except for the addresses: it needs two of
them, 256 bytes apart, and the counter has to stay in the range of a machine word behind the second
one.  Exactly 512 bytes below the end of that range it cannot.

Main definitions:

* `Offload.Visit` — a run of any job, whatever data it uses;
* `Offload.Reference.visited` — a device with the reference kernels after a history of visits;
* `Offload.Reference.AtRest` — what every history leaves as it was.

Main results:

* `Offload.Run.run_of_queue` — a run does not see the queue that it finds;
* `Offload.Reference.atRest_visited` — **every history leaves the device at rest**;
* `Offload.Reference.double_yields` — the doubling job doubles, wherever its buffers lie;
* `Offload.Reference.sessions_are_isolated` — **no history changes what a doubling run does**.
-/

import Offload.Proofs.Arrays
import Offload.Proofs.Emulated.Runs

set_option autoImplicit false

namespace Offload

/-! ### Opening a session -/

namespace Run

/-- The device after its selection. -/
def chosen (config : Config) (d : Emulated) : Emulated :=
  { d with selected := some config.deviceOrdinal }

/-- The device with which a session opens. -/
def opened (config : Config) (d : Emulated) : Emulated :=
  { chosen config d with pending := [], contextReady := true }

theorem advance_log {α β : Type} (source target : Stage) (v : Verbosity) (s : α) (s' : β) :
    (advance source target v s).log = (advance source target v s').log := by
  unfold advance
  split <;> rfl

section Able

variable {τ ε σ ρ : Type} {config : Config} {d : Emulated}
  (hselect : (d.faults.select || d.deviceCount ≤ config.deviceOrdinal) = false)
  (hreset : d.faults.reset = none) (v : Verbosity)

include hselect in
theorem select_of_able :
    Device.select config.deviceOrdinal v d = ⟨.ok (), chosen config d, []⟩ :=
  Emulated.select_of_present hselect v

include hreset in
theorem reset_of_able : Device.reset v (chosen config d) = ⟨.ok (), opened config d, []⟩ :=
  Emulated.reset_of_selected (d := chosen config d) rfl hreset v

include hselect hreset

theorem setup_of_able : setup config v d = ⟨.ok (), opened config d, []⟩ := by
  have hchosen := select_of_able hselect v
  unfold setup
  rw [Act.bind_of_ok (by rw [hchosen]), hchosen, reset_of_able hreset v]
  rfl

/-- A run on a device that can be set up is what follows the setup. -/
theorem body_of_able (watch : Stopwatch) (job : Job τ ε σ ρ) (env : ε) (t : τ) :
    body config watch job env v (d, t) =
      (afterSetup config watch job env v (opened config d, t)).after
        (advance .idle .initializing v ()).log := by
  have hchosen : (onDevice (Device.select config.deviceOrdinal)).attempt v (d, t) =
      ⟨.ok (.ok ()), (chosen config d, t), []⟩ := by
    simp only [Act.attempt, onDevice, Act.onFirst, Act.onPart, select_of_able hselect v]
  have hopened : (onDevice Device.reset).attempt v (chosen config d, t) =
      ⟨.ok (.ok ()), (opened config d, t), []⟩ := by
    simp only [Act.attempt, onDevice, Act.onFirst, Act.onPart, reset_of_able hreset v]
  rw [body, Act.bind_of_ok (advance_outcome (by rfl) v _), advance_state,
    Act.bind_of_ok (by rw [hchosen]), hchosen]
  change Step.after _ (Step.after [] (((onDevice Device.reset).attempt >>= _) v _)) = _
  rw [Act.bind_of_ok (by rw [hopened]), hopened, advance_log]
  rfl

/-- **A run does not see the queue that it finds.** -/
theorem run_of_queue (queue : List Launch) (watch : Stopwatch) (job : Job τ ε σ ρ) (env : ε)
    (t : τ) :
    run config watch job env v ({ d with pending := queue }, t) =
      run config watch job env v (d, t) := by
  -- the queue is gone once the session opens
  have hbody : body config watch job env v ({ d with pending := queue }, t) =
      body config watch job env v (d, t) := by
    rw [body_of_able hselect hreset v watch job env t,
      body_of_able (d := { d with pending := queue }) hselect hreset v watch job env t]
    rfl
  unfold run Act.within
  rw [hbody]
  rfl

/-- A session opens on a willing device, with its queue empty. -/
theorem serves_opening (hd : d.Ordered) (hfaults : d.faults = {}) (hcapacity : d.capacity = none)
    (t : τ) : (opening config v (d, t)).Serves config d.kernels d.memory [] [] := by
  have hstate : (setup config v d).state = opened config d := by
    rw [setup_of_able hselect hreset v]
  have hold : (opened config d).Ordered := hstate ▸ (leads_setup config v d).ordered hd
  unfold opening
  rw [hstate]
  exact ⟨⟨rfl, hfaults, hcapacity⟩, ⟨_, [], hold, Session.agrees_start hold config⟩, rfl, rfl, rfl,
    rfl, rfl⟩

end Able

end Run

/-! ### Histories -/

/-- A run of any job, whatever data it uses. -/
structure Visit : Type 1 where
  τ : Type
  ε : Type
  σ : Type
  ρ : Type
  config : Config
  watch : Stopwatch
  job : Job τ ε σ ρ
  env : ε
  host : τ
  verbosity : Verbosity

/-- The device after a visit, however the run ends. -/
def Visit.leave (x : Visit) (d : Emulated) : Emulated :=
  (run x.config x.watch x.job x.env x.verbosity (d, x.host)).state.1

namespace Reference

/-- A device with the reference kernels after a history of visits. -/
def visited (history : List Visit) : Emulated :=
  history.foldl (fun d x => x.leave d) device

/-- What every history leaves as it was: the equipment of the device, and that nothing is live on
it. -/
structure AtRest (d : Emulated) : Prop where
  ordered : d.Ordered
  equipment : d.equipment = device.equipment
  layout : d.layout = []

theorem reachable_device : device.Reachable :=
  ((Emulated.Reachable.fresh 1 none {}).step .off (.register doubleName doubleValue)).step .off
    (.register affineName affineIndex)

theorem atRest_device : AtRest device :=
  ⟨reachable_device.ordered, rfl, rfl⟩

theorem AtRest.faults {d : Emulated} (h : AtRest d) : d.faults = {} :=
  congrArg Emulated.Equipment.faults h.equipment

/-- A visit leaves the device at rest, however it ends. -/
theorem AtRest.leave {d : Emulated} (h : AtRest d) (x : Visit) : AtRest (x.leave d) := by
  have hleads := Run.leads_run x.config x.watch x.job x.env x.verbosity d x.host
  have hfree : d.faults.free = none := by
    rw [h.faults]
  have hlayout := Run.layout_run x.config x.watch x.job x.env x.verbosity x.host h.ordered hfree
  exact ⟨hleads.ordered h.ordered, hleads.equipment.trans h.equipment, hlayout.trans h.layout⟩

theorem AtRest.leaveEach {d : Emulated} (h : AtRest d) (history : List Visit) :
    AtRest (history.foldl (fun d x => x.leave d) d) := by
  induction history generalizing d with
  | nil => exact h
  | cons x rest ih => exact ih (h.leave x)

/-- **Every history leaves the device at rest.** -/
theorem atRest_visited (history : List Visit) : AtRest (visited history) :=
  atRest_device.leaveEach history

/-! ### Doubling -/

theorem globalX_double : (doubleUnit.geometry.thread 0).globalX = .ok 0 := by
  decide

/-- The one thread of a doubling unit reads a number and writes its double. -/
theorem run_doubleValue {m m' : Memory} {input output : Address} {env : DoubleEnv}
    (hread : m.read input (Pod.width DoubleEnv) 0 = .ok (Pod.encode env))
    (hwrite : m.write output 0 (Pod.encode (env.value * 2)) = (.ok (), m')) :
    (doubleValue (doubleUnit.geometry.thread 0) [.pointer input, .pointer output]).run m =
      (.ok (), m') := by
  unfold doubleValue
  rw [globalX_double]
  change Kernel.run ((Kernel.read input 0 : Kernel DoubleEnv) >>= fun env =>
    Kernel.write output 0 (env.value * 2)) m = _
  rw [Kernel.run_bind_of_ok (Kernel.run_read hread)]
  exact Kernel.run_write hwrite

/-- The room that a doubling unit needs. -/
theorem fits_double {m : Memory} (h : m.frontier + 512 < Word.bound) : doubleUnit.Fits m where
  environment := by decide
  environment_le := by decide
  results := by decide
  results_le := by decide
  room := h

/-- The memory after the thread of a doubling unit. -/
def doubled (env : DoubleEnv) (m : Memory) : Memory :=
  (doubleUnit.staged env m).update (KernelUnit.output DoubleEnv m) fun buffer =>
    Memory.splice buffer 0 (Pod.encode (env.value * 2))

theorem size_room :
    (Array.replicate (doubleUnit.count * Pod.width Int32) Memory.poison).size = 4 :=
  Array.size_replicate

section Doubling

variable {τ : Type} {config : Config} {kernels : List (String × Kernel.Body)}
  {w : Workspace Emulated τ} {m : Memory} {queue : List Launch} {tracked : List Allocation}

theorem threads_double (h : w.Serves config kernels m queue tracked)
    (hroom : m.frontier + 512 < Word.bound) (env : DoubleEnv) :
    doubleUnit.threads doubleValue env m = (.ok (), doubled env m) := by
  have hfits := fits_double hroom
  have hread := KernelUnit.read_input h hfits env
  have hwrite : (doubleUnit.staged env m).write (KernelUnit.output DoubleEnv m) 0
      (Pod.encode (env.value * 2)) = (.ok (), doubled env m) := by
    have hlength : (Pod.encode (env.value * 2)).length = 4 := Pod.length_encode _
    rw [Memory.write_of_find? (KernelUnit.find?_output h hfits env)
      (by rw [hlength]; exact Nat.le_of_eq size_room.symm) (by rw [size_room]; decide),
      Nat.zero_mul]
    rfl
  exact Emulated.runThreads_one (run_doubleValue hread hwrite)

/-- After the thread of a doubling unit the double lies where its results belong. -/
theorem holds_doubled (h : w.Serves config kernels m queue tracked)
    (hroom : m.frontier + 512 < Word.bound) (env : DoubleEnv) :
    (doubled env m).Holds (KernelUnit.output DoubleEnv m) [env.value * 2] := by
  have houtput := KernelUnit.find?_output h (fits_double hroom) env
  refine ⟨_, Memory.find?_update_self houtput _, ?_⟩
  have hlength : (Pod.encode (env.value * 2)).length = 4 := Pod.length_encode _
  rw [Memory.toList_splice (by rw [hlength]; exact Nat.le_of_eq size_room.symm), hlength]
  simp [Pod.encodeAll, doubleUnit, Pod.width]

/-- **The doubling job doubles**, wherever its buffers lie, and leaves one of them to its
session. -/
theorem double_yields (h : w.Serves config device.kernels m [] [])
    (hroom : m.frontier + 512 < Word.bound) (value : Int32) (v : Verbosity) :
    ∃ w', Program.Yields (doubleJob.script ⟨value⟩) v w [value * 2] w' ∧
      w'.session.tracked.length = 1 := by
  have hbody : device.kernels.lookup doubleUnit.kernel = some doubleValue := rfl
  obtain ⟨w₁, w₂, hlaunch, hdownload, htracked⟩ := KernelUnit.invoke_of_holds (v := v) h
    (fits_double hroom) hbody (fun _ _ => ⟨1, by decide⟩) (threads_double h hroom ⟨value⟩)
    (holds_doubled h hroom ⟨value⟩) rfl
  refine ⟨w₂, ?_, by rw [htracked]; rfl⟩
  have hjob : Program.Yields (doubleJob.launch (⟨value⟩, none)) v w
      (⟨value⟩, some ⟨KernelUnit.output DoubleEnv m, 1⟩) w₁ :=
    hlaunch.bind (Program.yields_pure _)
  exact (Program.yields_pure _).bind (hjob.bind hdownload)

end Doubling

/-! ### Isolation -/

/-- **No history changes what a doubling run does**, as long as the address counter has more than
512 bytes left: it succeeds with the double of its number, leaves nothing on the device, and runs
none of the launches that it finds in the queue, since it is the same run, down to its log, for
every queue. -/
theorem sessions_are_isolated (history : List Visit) {τ : Type} (config : Config)
    (hordinal : config.deviceOrdinal = 0)
    (hroom : (visited history).frontier + 512 < UInt64.size) (watch : Stopwatch) (value : Int32)
    (v : Verbosity) (t : τ) :
    let d := visited history
    let done := run config watch doubleJob ⟨value⟩ v (d, t)
    (∃ report, done.outcome = .ok report ∧ report.error = .success ∧ report.failure = none ∧
        report.output = some [value * 2] ∧ report.released = 1) ∧
      done.state.1.liveAllocations = 0 ∧
      ∀ queue, run config watch doubleJob ⟨value⟩ v ({ d with pending := queue }, t) = done := by
  intro d done
  have hrest : AtRest d := atRest_visited history
  have hselect : (d.faults.select || d.deviceCount ≤ config.deviceOrdinal) = false := by
    have hcount : d.deviceCount = 1 := congrArg Emulated.Equipment.deviceCount hrest.equipment
    rw [hrest.faults, hcount, hordinal]
    rfl
  have hreset : d.faults.reset = none := by
    rw [hrest.faults]
  have hfree : d.faults.free = none := by
    rw [hrest.faults]
  have hkernels : d.kernels = device.kernels :=
    congrArg Emulated.Equipment.kernels hrest.equipment
  have hserves := Run.serves_opening hselect hreset v hrest.ordered hrest.faults
    (congrArg Emulated.Equipment.capacity hrest.equipment) t
  rw [hkernels] at hserves
  obtain ⟨w, ⟨hscript, hleft⟩, hlength⟩ := double_yields hserves hroom value v
  have hsetup : (Run.setup config v d).outcome = .ok () := by
    rw [Run.setup_of_able hselect hreset v]
  refine ⟨?_, ?_, fun queue => Run.run_of_queue hselect hreset v queue watch doubleJob ⟨value⟩ t⟩
  · obtain ⟨report, hrun, herror, hfailure, houtput, hreleased⟩ :=
      Run.run_of_script_ok hrest.ordered hfree hsetup doubleJob ⟨value⟩ t hscript watch
    refine ⟨report, hrun, herror, hfailure, houtput, hreleased.trans ?_⟩
    unfold Run.final
    rw [hleft, hlength]
  · have hlayout := (Run.layout_run config watch doubleJob ⟨value⟩ v t hrest.ordered hfree).trans
      hrest.layout
    exact List.length_eq_zero_iff.2 (List.map_eq_nil_iff.1 hlayout)

/-- A job that queues the doubling kernel on a buffer, frees the buffer, and fails without waiting
for the kernel. -/
def hastyJob : Job Unit Unit Unit Unit where
  prepare _ := do
    let address ← Program.allocate 4
    Program.launch doubleName doubleUnit.geometry [.pointer address, .pointer address]
    Program.free address
  launch _ := pure ()
  copyBack _ := .fail (.invalidInput .nothingLaunched)

/-- A visit that panics, then one that leaves a launch in the queue. -/
def unruly : List Visit :=
  [⟨Unit, Unit, Unit, Unit, {}, fun _ => 0, Run.panickingJob, (), (), .off⟩,
    ⟨Unit, Unit, Unit, Unit, {}, fun _ => 0, hastyJob, (), (), .off⟩]

/-- The double of a large number wraps, after a panic and with a launch on a lost buffer waiting. -/
theorem isolated_from_a_panic_and_a_queue :
    (visited unruly).pending.length = 1 ∧ (visited unruly).stats.allocations = 4 ∧
      (visited unruly).frontier + 512 < UInt64.size ∧
      let done := run {} (fun _ => 0) doubleJob ⟨1073741825⟩ .off (visited unruly, ())
      (∃ report, done.outcome = .ok report ∧ report.output = some [-2147483646] ∧
          report.released = 1) ∧
        done.state.1.liveAllocations = 0 := by
  have hroom : (visited unruly).frontier + 512 < UInt64.size := by decide +kernel
  refine ⟨by decide +kernel, by decide +kernel, hroom, ?_⟩
  obtain ⟨⟨report, hrun, -, -, houtput, hreleased⟩, hlive, -⟩ :=
    sessions_are_isolated unruly {} rfl hroom (fun _ => 0) 1073741825 .off ()
  exact ⟨⟨report, hrun, houtput.trans (by decide), hreleased⟩, hlive⟩

/-- A job that asks for more than a buffer can hold, up to 512 bytes below the end of the address
range. -/
def greedyJob : Job Unit Unit Unit Unit where
  prepare _ := do
    let _ ← Program.allocate (UInt64.size - 512 - Memory.base)
  launch _ := pure ()
  copyBack _ := pure []

/-- With exactly 512 bytes left the counter cannot move behind the second buffer of a doubling run,
and the run panics. -/
theorem doubling_panics_with_512_bytes_left :
    let d := visited [⟨Unit, Unit, Unit, Unit, {}, fun _ => 0, greedyJob, (), (), .off⟩]
    d.frontier + 512 = UInt64.size ∧
      (run {} (fun _ => 0) doubleJob ⟨5⟩ .off (d, ())).outcome = .panic .addOverflow := by
  intro d
  exact ⟨by decide +kernel, by decide +kernel⟩

end Reference

end Offload
