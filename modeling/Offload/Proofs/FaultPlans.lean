/-
**Plans of faults.**

A device can be told to fail any of its calls.  A plan of faults does nothing until a call meets
one of them: what succeeds on a device either fails with a fault of the plan on the same device with
that plan, or does there what it did before.  This is shown of the calls of a device, of the
operations of a session and of the requests of a program, one after the other.

A program that ends with the first failure it gets therefore fails with the first fault that its
requests meet, in the order in which it makes them, and ends as before if they meet none.  Kernel
units are such programs, and their requests are always the same seven, so the faults that they can
meet can be listed.

Main definitions:

* `Offload.Emulated.armed`, `Offload.Workspace.armed` — a device, and a workspace on it, with a
  plan;
* `Offload.Act.Meets` — what an action does with a plan, next to what it does without;
* `Offload.FaultPlan.met?`, `Offload.FaultPlan.first` — the fault that a request meets, and the
  first one that requests meet;
* `Offload.Dialogue.PassesOn` — dialogues that end with the first failure they get;
* `Offload.FaultPlan.unitFaults` — the faults that a kernel unit can meet, in order.

Main results:

* `Offload.Workspace.meets_answer` — **a request that succeeds meets its fault, or succeeds as
  before**;
* `Offload.Program.meets_perform` — **a program fails with the first fault that its requests meet**;
* `Offload.KernelUnit.requests_launch` — the requests of a kernel unit;
* `Offload.KernelUnit.meets_invoke` — a kernel unit fails with the first fault in its list.
-/

import Offload.Proofs.Diagnostics
import Offload.Proofs.Tracking

set_option autoImplicit false

namespace Offload

/-! ### Plans -/

/-- A device with a plan of faults in place of its own. -/
def Emulated.armed (plan : FaultPlan) (d : Emulated) : Emulated :=
  { d with faults := plan }

/-- A workspace on a device with a plan of faults. -/
def Workspace.armed {τ : Type} (plan : FaultPlan) (w : Workspace Emulated τ) :
    Workspace Emulated τ :=
  w.map (Emulated.armed plan) id

namespace Act

variable {σ α β : Type} {arm : σ → σ} {fault later : Option Failure} {v : Verbosity} {s : σ}

/-- What an action does in the state `arm s`, next to what it does in `s`: it fails with a fault, if
there is one, and otherwise it does the same. -/
structure Meets (arm : σ → σ) (fault : Option Failure) (x : Act σ α) (v : Verbosity) (s : σ) :
    Prop where
  stopped : ∀ e, fault = some e → (x v (arm s)).outcome = .error e
  passed : fault = none →
    (x v (arm s)).outcome = (x v s).outcome ∧ (x v (arm s)).state = arm (x v s).state

theorem Lifts.meets {x : Act σ α} (h : Lifts arm x x) (v : Verbosity) (s : σ) :
    x.Meets arm none v s :=
  ⟨fun _ he => (nomatch he), fun _ => ⟨h.outcome v s, h.state v s⟩⟩

/-- Two actions that succeed one after the other meet the fault of the first one, and then that of
the second one. -/
theorem Meets.bind {x : Act σ α} {f : α → Act σ β} {a : α} (hx : x.Meets arm fault v s)
    (ha : (x v s).outcome = .ok a) (hf : (f a).Meets arm later v (x v s).state) :
    (x >>= f).Meets arm (fault.or later) v s := by
  cases fault with
  | some e =>
      refine ⟨fun e' he => ?_, fun hnone => (nomatch hnone)⟩
      cases he
      rw [bind_of_error (hx.stopped e rfl)]
  | none =>
      obtain ⟨houtcome, hstate⟩ := hx.passed rfl
      rw [Option.none_or]
      refine ⟨fun e he => ?_, fun hnone => ?_⟩
      · rw [bind_of_ok (houtcome.trans ha), Step.after_outcome, hstate]
        exact hf.stopped e he
      · rw [bind_of_ok (houtcome.trans ha), bind_of_ok ha]
        simp only [Step.after_outcome, Step.after_state, hstate]
        exact hf.passed hnone

end Act

/-! ### Calls -/

namespace Emulated

variable {α : Type} (plan : FaultPlan) {v : Verbosity} {d : Emulated}

/-- A call that may be told to fail meets that fault, if what it is for does not depend on the
plan. -/
theorem meets_guarded {act : Act Emulated α} {call : DeviceCall}
    {fault : Emulated → Option Int32} {x : Emulated → Act Emulated α}
    (hact : act = guarded call fault x)
    (hx : ∀ d, Act.Lifts (armed plan) (x d) (x (d.armed plan))) {a : α}
    (hok : (act v d).outcome = .ok a) :
    act.Meets (armed plan) ((fault (d.armed plan)).map (.deviceCall call)) v d := by
  rcases guarded_cases hact v d with ⟨status, h⟩ | ⟨hready, -, h⟩
  · rw [h] at hok
    cases hok
  · have harmed : (d.armed plan).ready = true := hready
    refine ⟨fun e he => ?_, fun hnone => ?_⟩
    · obtain ⟨status, hstatus, rfl⟩ := Option.map_eq_some_iff.1 he
      rw [guarded_of_fault hact harmed hstatus]
    · rw [guarded_of_ready hact harmed (Option.map_eq_none_iff.1 hnone), h]
      exact ⟨(hx d).outcome v d, (hx d).state v d⟩

theorem meets_allocate {size : Nat} {address : Address}
    (hok : (allocate size v d).outcome = .ok address) :
    (allocate size).Meets (armed plan)
      ((d.armed plan).allocationFault.map (.deviceCall .allocate)) v d := by
  refine meets_guarded plan (rfl : allocate size = guarded .allocate allocationFault _)
    (fun d => ?_) hok
  have hmemory : Act.Lifts id (Act.update fun m : Memory => m.allocate size)
      (Act.update fun m => m.allocate size) := fun _ _ => rfl
  refine Act.Lifts.bind (hmemory.onPart ?_ ?_) fun address => ?_
  · intro d
    rfl
  · intro m d
    rfl
  refine Act.Lifts.bind (Act.lifts_modify ?_) fun _ => ?_
  · intro d
    rfl
  exact (Act.lifts_note _ _ _).bind fun _ => Act.lifts_pure _

theorem meets_free {address : Address} (hok : (free address v d).outcome = .ok ()) :
    (free address).Meets (armed plan) (plan.free.map (.deviceCall .free)) v d := by
  refine meets_guarded plan (rfl : free address = guarded .free (fun d => d.faults.free) _)
    (fun d => ?_) hok
  dsimp only [armed]
  split
  · exact Act.lifts_fail _
  · refine Act.Lifts.bind (Act.lifts_modify ?_) fun _ => Act.lifts_note _ _ _
    intro d
    rfl

theorem meets_copyToDevice {address : Address} {bytes : List UInt8}
    (hok : (copyToDevice address bytes v d).outcome = .ok ()) :
    (copyToDevice address bytes).Meets (armed plan)
      (plan.copyToDevice.map (.deviceCall .copyToDevice)) v d := by
  refine meets_guarded plan (rfl : copyToDevice address bytes =
    guarded .copyToDevice (fun d => d.faults.copyToDevice) _) (fun d => ?_) hok
  refine (Act.lifts_ofOutcome _).bind fun size => ?_
  exact Act.lifts_ite _ (Act.lifts_modify fun _ => rfl) (Act.lifts_fail _)

theorem meets_read {address : Address} {size : Nat} {bytes : List UInt8}
    (hok : (Device.read address size v d).outcome = .ok bytes) :
    (Device.read address size).Meets (armed plan)
      (plan.copyFromDevice.map (.deviceCall .copyFromDevice)) v d := by
  refine meets_guarded plan (read_eq_contents address size) (fun d => ?_) hok
  refine (Act.lifts_ofOutcome _).bind fun buffer => ?_
  exact Act.lifts_ite _ (Act.lifts_pure _) (Act.lifts_fail _)

theorem meets_launch {kernel : String} {geometry : Geometry} {args : List Arg}
    (hok : (launch kernel geometry args v d).outcome = .ok ()) :
    (launch kernel geometry args).Meets (armed plan)
      (plan.launch.map (.deviceCall .launch)) v d := by
  refine meets_guarded plan (rfl : launch kernel geometry args =
    guarded .launch (fun d => d.faults.launch) _) (fun d => ?_) hok
  exact Act.lifts_ite _ (Act.lifts_fail _) (Act.lifts_modify fun _ => rfl)

theorem lifts_runLaunch (l : Launch) :
    Act.Lifts (armed plan) (runLaunch l) (runLaunch l) := by
  refine Act.lifts_get_bind fun d => ?_
  have hbody : (d.armed plan).body? l.kernel = d.body? l.kernel := rfl
  rw [hbody]
  cases d.body? l.kernel with
  | none => exact Act.lifts_fail _
  | some body =>
      have hthreads : Act.Lifts id
          (Act.update (runThreads (fun t => body t l.args) l.geometry l.geometry.count 0))
          (Act.update (runThreads (fun t => body t l.args) l.geometry l.geometry.count 0)) :=
        fun _ _ => rfl
      exact (Act.lifts_note _ _ _).bind fun _ => hthreads.onPart (fun _ => rfl) (fun _ _ => rfl)

theorem lifts_runLaunches (ls : List Launch) :
    Act.Lifts (armed plan) (runLaunches ls) (runLaunches ls) := by
  induction ls with
  | nil => exact Act.lifts_pure ()
  | cons l rest ih => exact (lifts_runLaunch plan l).bind fun _ => ih

theorem meets_synchronize (hok : (synchronize v d).outcome = .ok ()) :
    synchronize.Meets (armed plan) (plan.synchronize.map (.deviceCall .synchronize)) v d := by
  rcases synchronize_cases v d with ⟨-, h⟩ | ⟨-, status, -, h⟩ | ⟨hready, -, h⟩
  · rw [h] at hok
    cases hok
  · rw [h] at hok
    cases hok
  · -- the queue was run, so the device is ready and only its plan can stop the call
    have harmed : (d.armed plan).ready = true := hready
    have hruns := lifts_runLaunches plan d.pending
    refine ⟨fun e he => ?_, fun hnone => ?_⟩
    · obtain ⟨status, hstatus, rfl⟩ := Option.map_eq_some_iff.1 he
      rcases synchronize_cases v (d.armed plan) with ⟨hidle, -⟩ | ⟨-, other, hother, h'⟩ |
        ⟨-, hplan, -⟩
      · rw [harmed] at hidle
        cases hidle
      · cases hother.symm.trans hstatus
        rw [h']
      · cases hplan.symm.trans hstatus
    · rw [synchronize_of_ready harmed (Option.map_eq_none_iff.1 hnone), h]
      exact ⟨hruns.outcome v d.drained, hruns.state v d.drained⟩

end Emulated

/-! ### Requests -/

namespace FaultPlan

variable {τ : Type}

/-- The fault of an allocation that follows `made` others. -/
def allocating (plan : FaultPlan) (made : Nat) : Option Failure :=
  (plan.allocation.bind fun fault => if fault.1 ≤ made then some fault.2 else none).map
    (.deviceCall .allocate)

/-- The fault that a request meets after `made` allocations. -/
def met? (plan : FaultPlan) (made : Nat) : Request τ → Option Failure
  | .allocate _ => plan.allocating made
  | .store _ _ => plan.copyToDevice.map (.deviceCall .copyToDevice)
  | .fetch _ _ => plan.copyFromDevice.map (.deviceCall .copyFromDevice)
  | .free _ => plan.free.map (.deviceCall .free)
  | .launch _ _ _ => plan.launch.map (.deviceCall .launch)
  | .synchronize => plan.synchronize.map (.deviceCall .synchronize)
  | _ => none

end FaultPlan

namespace Session

variable {α : Type} (plan : FaultPlan) {fault : Option Failure} {v : Verbosity}
  {s : Session Emulated}

theorem meets_onDevice {plan : FaultPlan} {x : Act Emulated α}
    (h : x.Meets (Emulated.armed plan) fault v s.device) :
    (onDevice x).Meets (Session.map (Emulated.armed plan)) fault v s :=
  ⟨h.stopped, fun hnone => ⟨(h.passed hnone).1,
    congrArg (fun d => { s with device := d }) (h.passed hnone).2⟩⟩

theorem meets_allocate {size : Nat} {address : Address}
    (hok : (allocate size v s).outcome = .ok address) :
    (allocate size).Meets (Session.map (Emulated.armed plan))
      (plan.allocating s.device.stats.allocations) v s := by
  obtain ⟨hsize, hfits, hreply, -⟩ := allocate_eq_ok hok
  have hcheck : Act.Lifts (adapt (Emulated.armed plan) id) (ensureFits size) (ensureFits size) := by
    refine lifts_ensureFits ?_ Config.onlyFlag_id size
    intro d
    rfl
  have hcall := meets_onDevice (Emulated.meets_allocate plan hreply)
  unfold allocate
  rw [if_neg hsize, ← Option.none_or (o := plan.allocating _),
    ← Option.or_none (o := plan.allocating _)]
  refine Act.Meets.bind (hcheck.meets v s) hfits ?_
  rw [ensureFits_state]
  refine hcall.bind hreply (Act.Lifts.meets ?_ v _)
  -- what follows the call does not look at the device
  have hrecord : Act.Lifts (adapt (Emulated.armed plan) id) (record ⟨address, size⟩)
      (record ⟨address, size⟩) := lifts_record _
  refine Act.Lifts.bind hrecord fun _ => ?_
  exact Act.lifts_get_bind fun s => (Act.lifts_note _ _ _).bind fun _ => Act.lifts_pure _

theorem meets_fetch {address : Address} {size : Nat} {bytes : List UInt8}
    (hok : (fetch address size v s).outcome = .ok bytes) :
    (fetch address size).Meets (Session.map (Emulated.armed plan))
      (plan.copyFromDevice.map (.deviceCall .copyFromDevice)) v s := by
  unfold fetch at hok ⊢
  split at hok
  · rename_i hsize
    rw [if_pos hsize]
    exact meets_onDevice (Emulated.meets_read plan hok)
  · cases hok

theorem meets_free {address : Address} (hok : (free address v s).outcome = .ok ()) :
    (free address).Meets (Session.map (Emulated.armed plan))
      (plan.free.map (.deviceCall .free)) v s := by
  cases howns : s.owns address with
  | false =>
      rw [free_of_unowned howns] at hok
      cases hok
  | true =>
      obtain ⟨houtcome, hstate⟩ := free_of_owned howns v
      obtain ⟨houtcome', hstate'⟩ :=
        free_of_owned (s := s.map (Emulated.armed plan)) howns v
      have hcall := Emulated.meets_free plan (houtcome.symm.trans hok)
      refine ⟨fun e he => houtcome'.trans (hcall.stopped e he), fun hnone => ?_⟩
      rw [houtcome', hstate', houtcome, hstate]
      refine ⟨(hcall.passed hnone).1, ?_⟩
      exact congrArg (fun d => Session.mk d s.config (s.tracked.eraseP fun a => a.address = address)
        (s.earlyFrees + 1)) (hcall.passed hnone).2

theorem meets_launch {kernel : String} {geometry : Geometry} {args : List Arg}
    (hok : (launch kernel geometry args v s).outcome = .ok ()) :
    (launch kernel geometry args).Meets (Session.map (Emulated.armed plan))
      (plan.launch.map (.deviceCall .launch)) v s := by
  have hcounted : s.config.debug = true → v.admits .info = true →
      ∃ n, geometry.totalThreads = .ok n := by
    intro hdebug hkept
    rcases geometry.totalThreads_cases with hcounted | hpanic
    · exact hcounted
    · rw [launch_of_uncounted hdebug hkept hpanic] at hok
      cases hok
  obtain ⟨houtcome, hstate⟩ := launch_of_counted (v := v) hcounted kernel args
  obtain ⟨houtcome', hstate'⟩ :=
    launch_of_counted (v := v) (s := s.map (Emulated.armed plan)) hcounted kernel args
  have hcall := Emulated.meets_launch plan (houtcome.symm.trans hok)
  refine ⟨fun e he => houtcome'.trans (hcall.stopped e he), fun hnone => ?_⟩
  rw [houtcome', hstate', houtcome, hstate]
  exact ⟨(hcall.passed hnone).1, congrArg (fun d => { s with device := d }) (hcall.passed hnone).2⟩

end Session

namespace Workspace

variable {τ α : Type} (plan : FaultPlan) {fault : Option Failure} {v : Verbosity}
  {w : Workspace Emulated τ}

theorem meets_onSession {plan : FaultPlan} {x : Act (Session Emulated) α}
    (h : x.Meets (Session.map (Emulated.armed plan)) fault v w.session) :
    (onSession x).Meets (armed plan) fault v w :=
  ⟨h.stopped, fun hnone => ⟨(h.passed hnone).1,
    congrArg (fun s => { w with session := s }) (h.passed hnone).2⟩⟩

/-- **A request that succeeds meets its fault, or succeeds as before.** -/
theorem meets_answer {q : Request τ} {a : q.Answer} (hok : (answer q v w).outcome = .ok a) :
    (answer q).Meets (armed plan) (plan.met? w.session.device.stats.allocations q) v w := by
  cases q with
  | allocate size => exact meets_onSession (Session.meets_allocate plan hok)
  | store address bytes =>
      exact meets_onSession (Session.meets_onDevice (Emulated.meets_copyToDevice plan hok))
  | fetch address size => exact meets_onSession (Session.meets_fetch plan hok)
  | free address => exact meets_onSession (Session.meets_free plan hok)
  | launch kernel geometry args => exact meets_onSession (Session.meets_launch plan hok)
  | synchronize =>
      exact meets_onSession (Session.meets_onDevice (Emulated.meets_synchronize plan hok))
  | inspect =>
      refine Act.Lifts.meets ?_ v w
      exact Act.lifts_get_bind fun w => Act.lifts_pure _
  | note level message fields =>
      refine Act.Lifts.meets ?_ v w
      exact Act.lifts_note _ _ _
  | load =>
      refine Act.Lifts.meets ?_ v w
      exact Act.lifts_get_bind fun w => Act.lifts_pure _
  | save data =>
      refine Act.Lifts.meets ?_ v w
      exact Act.lifts_modify fun _ => rfl

end Workspace

/-! ### Programs -/

/-- The number of allocations that a request makes if it succeeds. -/
def Request.allocations {τ : Type} : Request τ → Nat
  | .allocate _ => 1
  | _ => 0

theorem Emulated.Change.allocations {d d' : Emulated} {g : Option Allocation} (h : Change d g d') :
    d'.stats.allocations = d.stats.allocations + g.toList.length := by
  rcases h.stats with ⟨size, rfl, -, -, hstats⟩ | ⟨address, -, rfl, -, hstats⟩ | ⟨rfl, -, hsame, -⟩
  · rw [hstats]
    rfl
  · rw [hstats]
    rfl
  · exact hsame

/-- The device counts the allocations that succeed. -/
theorem Workspace.allocations_answer {τ : Type} {q : Request τ} {v : Verbosity}
    {w : Workspace Emulated τ} {a : q.Answer} (hok : (answer q v w).outcome = .ok a) :
    (answer q v w).state.session.device.stats.allocations =
      w.session.device.stats.allocations + q.allocations := by
  have hcount : ∀ {s : Session Emulated} {d : Emulated}, s.device = d →
      w.session.device.Change none d →
        s.device.stats.allocations = w.session.device.stats.allocations := by
    intro s d hdevice hchange
    rw [hdevice]
    exact hchange.allocations
  cases q with
  | allocate size =>
      obtain ⟨-, -, hreply, hstate⟩ := Session.allocate_eq_ok hok
      have hreply : (Emulated.allocate size v w.session.device).outcome = .ok a := hreply
      have hchange := Emulated.change_allocate size v w.session.device
      rw [hreply] at hchange
      exact (congrArg (fun s => s.device.stats.allocations) hstate).trans hchange.allocations
  | store address bytes => exact hcount rfl (Emulated.change_copyToDevice address bytes v _)
  | fetch address size =>
      exact hcount (congrArg Session.device (Session.fetch_state address size v w.session)) .rest
  | free address =>
      cases howns : w.session.owns address with
      | true =>
          exact hcount (congrArg Session.device (Session.free_of_owned howns v).2)
            (Emulated.change_free address v _)
      | false =>
          exact hcount (congrArg (fun r => r.state.device) (Session.free_of_unowned howns v)) .rest
  | launch kernel geometry args =>
      rcases Session.launch_state kernel geometry args v w.session with hstate | hstate
      · exact hcount (congrArg Session.device hstate) .rest
      · exact hcount (congrArg Session.device hstate)
          (Emulated.change_launch kernel geometry args v _)
  | synchronize => exact hcount rfl (Emulated.change_synchronize v _)
  | inspect => rfl
  | note level message fields =>
      have hstate : (answer (.note level message fields) v w).state = w := Act.note_state ..
      rw [hstate]
      rfl
  | load => rfl
  | save data => rfl

/-- The first fault that requests meet, if they succeed without the plan.  Before them, `made`
allocations have succeeded. -/
def FaultPlan.first {τ : Type} (plan : FaultPlan) : Nat → List (Request τ) → Option Failure
  | _, [] => none
  | made, q :: qs => (plan.met? made q).or (plan.first (made + q.allocations) qs)

namespace Dialogue

variable {Q : Type} {A : Q → Type} {α β γ : Type}

theorem bind_assoc (p : Dialogue Q A α) (f : α → Dialogue Q A β) (g : β → Dialogue Q A γ) :
    p >>= f >>= g = p >>= fun a => f a >>= g := by
  induction p with
  | done a => rfl
  | fail e => rfl
  | panic c => rfl
  | ask q next ih =>
      rw [ask_bind, ask_bind, ask_bind]
      exact congrArg (ask q) (funext ih)

/-- A dialogue that ends with the first failure it gets. -/
inductive PassesOn : Dialogue Q A α → Prop
  | done (a : α) : PassesOn (.done a)
  | fail (e : Failure) : PassesOn (.fail e)
  | panic (c : Panic) : PassesOn (.panic c)
  | ask {q : Q} {next : Except Failure (A q) → Dialogue Q A α}
      (herror : ∀ e, next (.error e) = .fail e) (hok : ∀ a, PassesOn (next (.ok a))) :
      PassesOn (.ask q next)

theorem passesOn_request (q : Q) : PassesOn (request q : Dialogue Q A (A q)) :=
  .ask (fun _ => rfl) fun a => .done a

theorem PassesOn.bind {p : Dialogue Q A α} {f : α → Dialogue Q A β} (hp : p.PassesOn)
    (hf : ∀ a, (f a).PassesOn) : PassesOn (p >>= f) := by
  induction hp with
  | done a => exact hf a
  | fail e => exact .fail e
  | panic c => exact .panic c
  | ask herror hok ih =>
      rw [ask_bind]
      refine .ask (fun e => ?_) ih
      rw [herror, fail_bind]

end Dialogue

namespace Program

section Ask

variable {δ τ α : Type} [Device δ] {q : Request τ} (next : Except Failure q.Answer → Program τ α)
  {v : Verbosity} {w : Workspace δ τ}

theorem perform_ask_eq : (Program.perform (.ask q next) : Act (Workspace δ τ) α) =
    (Workspace.answer q).attempt >>= fun r => Program.perform (next r) := rfl

/-- A program goes on with the answer to its first request, or with the failure. -/
theorem perform_ask_of_reply {r : Except Failure q.Answer}
    (h : ((Workspace.answer q).attempt v w).outcome = .ok r) :
    (Program.perform (.ask q next) v w).outcome =
        (Program.perform (next r) v (Workspace.answer q v w).state).outcome ∧
      (Program.perform (.ask q next) v w).state =
        (Program.perform (next r) v (Workspace.answer q v w).state).state := by
  rw [perform_ask_eq, Act.bind_of_ok h, Act.attempt_state]
  exact ⟨rfl, rfl⟩

theorem requests_ask_of_reply {r : Except Failure q.Answer}
    (h : ((Workspace.answer q).attempt v w).outcome = .ok r) :
    requests (.ask q next) v w = q :: requests (next r) v (Workspace.answer q v w).state := by
  simp only [requests, Dialogue.trail, List.map_cons]
  cases hanswer : (Workspace.answer q v w).outcome with
  | ok a =>
      rw [Act.attempt_of_ok hanswer] at h
      cases h
      rfl
  | error e =>
      rw [Act.attempt_of_error hanswer] at h
      cases h
      rfl
  | panic c =>
      rw [Act.attempt_of_panic hanswer] at h
      cases h

/-- A program that passes on failures and succeeds has got no failure. -/
theorem answer_of_passesOn {next : Except Failure q.Answer → Program τ α}
    (herror : ∀ e, next (.error e) = .fail e) {b : α}
    (hok : (Program.perform (.ask q next) v w).outcome = .ok b) :
    ∃ a, (Workspace.answer q v w).outcome = .ok a := by
  cases hanswer : (Workspace.answer q v w).outcome with
  | ok a => exact ⟨a, rfl⟩
  | error e =>
      rw [(perform_ask_of_reply next (Act.attempt_of_error hanswer)).1, herror] at hok
      cases hok
  | panic c =>
      rw [perform_ask_eq, Act.bind_of_panic (Act.attempt_of_panic hanswer)] at hok
      cases hok

end Ask

/-- **A program that passes on failures fails with the first fault that its requests meet**, and
ends as before if they meet none. -/
theorem meets_perform {τ α : Type} (plan : FaultPlan) {p : Program τ α} {v : Verbosity}
    {w : Workspace Emulated τ} {b : α} (hp : p.PassesOn) (hok : (p.perform v w).outcome = .ok b) :
    Act.Meets (Workspace.armed plan)
      (plan.first w.session.device.stats.allocations (p.requests v w)) p.perform v w := by
  induction hp generalizing w with
  | done a => exact ⟨fun _ he => (nomatch he), fun _ => ⟨rfl, rfl⟩⟩
  | fail e => cases hok
  | panic c => cases hok
  | @ask q next herror hnext ih =>
      obtain ⟨a, ha⟩ := answer_of_passesOn herror hok
      obtain ⟨houtcome, hstate⟩ := perform_ask_of_reply next (Act.attempt_of_ok ha)
      have hstep := Workspace.meets_answer plan ha
      have hrest := ih a (houtcome.symm.trans hok)
      rw [Workspace.allocations_answer ha] at hrest
      rw [requests_ask_of_reply next (Act.attempt_of_ok ha), FaultPlan.first]
      -- a fault ends the program here; past it, the device is as far as it was without the plan
      cases hmet : plan.met? w.session.device.stats.allocations q with
      | some e =>
          refine ⟨fun e' he => ?_, fun hnone => (nomatch hnone)⟩
          cases he
          rw [(perform_ask_of_reply next (Act.attempt_of_error (hstep.stopped e hmet))).1, herror]
          rfl
      | none =>
          obtain ⟨hanswer, hleft⟩ := hstep.passed hmet
          obtain ⟨houtcome', hstate'⟩ :=
            perform_ask_of_reply next (Act.attempt_of_ok (hanswer.trans ha))
          rw [hleft] at houtcome' hstate'
          refine ⟨fun e he => ?_, fun hnone => ?_⟩
          · rw [houtcome']
            exact hrest.stopped e he
          · rw [houtcome', hstate', houtcome, hstate]
            exact hrest.passed hnone

end Program

/-! ### The requests of a kernel unit -/

namespace Program

variable {δ τ α β : Type} [Device δ] {v : Verbosity} {w : Workspace δ τ}

/-- The requests of two programs that succeed one after the other. -/
theorem requests_bind_of_ok {p : Program τ α} {f : α → Program τ β} {a : α}
    (h : (p.perform v w).outcome = .ok a) :
    requests (p >>= f) v w = p.requests v w ++ (f a).requests v (p.perform v w).state := by
  induction p generalizing w with
  | done b =>
      cases h
      rfl
  | fail e => cases h
  | panic c => cases h
  | ask q next ih =>
      -- the first request got a reply, maybe a failure that the program caught
      rw [perform_ask_eq] at h
      obtain ⟨r, hr, hrest⟩ := Act.bind_eq_ok.1 h
      rw [Act.attempt_state] at hrest
      rw [Dialogue.ask_bind, requests_ask_of_reply _ hr, requests_ask_of_reply _ hr,
        (perform_ask_of_reply next hr).2, ih r hrest, List.cons_append]

theorem requests_request (q : Request τ) (v : Verbosity) (w : Workspace δ τ) :
    requests (Dialogue.request q) v w = [q] := by
  simp only [requests, Dialogue.request, Dialogue.trail, List.map_cons]
  cases (Workspace.answer q v w).outcome <;> rfl

variable [Pod α]

theorem requests_allocSlice {length : Nat} {s : Slice α}
    (h : ((allocSlice α length).perform v w).outcome = .ok s) :
    (allocSlice α length).requests v w = [.allocate (length * Pod.width α)] := by
  unfold allocSlice at h ⊢
  split at h
  · rename_i hbound
    obtain ⟨address, haddress, -⟩ := bind_eq_ok.1 h
    rw [if_pos hbound, requests_bind_of_ok haddress, allocate, requests_request]
    rfl
  · cases h

theorem requests_uploadSlice {host : List α} {s : Slice α}
    (h : ((uploadSlice host).perform v w).outcome = .ok s) :
    (uploadSlice host).requests v w =
      [.allocate (host.length * Pod.width α), .store s.address (Pod.encodeAll host)] := by
  obtain ⟨s', hs, hrest⟩ := bind_eq_ok.1 h
  obtain ⟨hlength, -⟩ := allocSlice_eq_ok hs
  obtain ⟨_, hwrite, hpure⟩ := bind_eq_ok.1 hrest
  cases hpure
  rw [uploadSlice, requests_bind_of_ok hs, requests_bind_of_ok hwrite, requests_allocSlice hs,
    write, if_pos hlength.symm, store, requests_request]
  rfl

theorem requests_download {s : Slice α} {host : List α}
    (h : ((download s).perform v w).outcome = .ok host) :
    (download s).requests v w = [.fetch s.address (s.length * Pod.width α)] := by
  obtain ⟨bytes, hbytes, -⟩ := bind_eq_ok.1 h
  rw [download, requests_bind_of_ok hbytes, fetch, requests_request]
  rfl

theorem passesOn_allocSlice (length : Nat) :
    Dialogue.PassesOn (allocSlice α length : Program τ (Slice α)) := by
  unfold allocSlice
  split
  · exact (Dialogue.passesOn_request _).bind fun address => .done _
  · exact .fail _

theorem passesOn_uploadSlice (host : List α) :
    Dialogue.PassesOn (uploadSlice host : Program τ (Slice α)) := by
  refine (passesOn_allocSlice host.length).bind fun s => .bind ?_ fun _ => .done s
  unfold write
  split
  · exact Dialogue.passesOn_request _
  · refine .bind ?_ fun expected => .fail _
    cases s.sizeBytes with
    | ok n => exact .done n
    | error e => exact .fail e
    | panic c => exact .panic c

end Program

namespace KernelUnit

variable {δ τ ε ρ : Type} [Device δ] [Pod ε] [Pod ρ]

/-- **The requests of a kernel unit that succeeds.** -/
theorem requests_launch {u : KernelUnit ε ρ} {env : ε} {v : Verbosity} {w : Workspace δ τ}
    {s : Slice ρ} (h : ((u.launch env).perform v w).outcome = .ok s) :
    ∃ copy, (u.launch env).requests v w = [
      .allocate (Pod.width ε), .store copy (Pod.encodeAll [env]),
      .allocate (u.count * Pod.width ρ),
      .note .debug "invocation buffers ready" [.text "kernel" u.kernel,
        .number "env_bytes" (Pod.width ε), .number "out_bytes" (u.count * Pod.width ρ)],
      .launch u.kernel u.geometry [.pointer copy, .pointer s.address], .synchronize,
      .free copy] := by
  unfold launch at h ⊢
  split at h
  · cases h
  · rename_i hcount
    obtain ⟨copy, hcopy, h⟩ := Program.bind_eq_ok.1 h
    obtain ⟨output, houtput, h⟩ := Program.bind_eq_ok.1 h
    obtain ⟨_, hnote, h⟩ := Program.bind_eq_ok.1 h
    obtain ⟨_, hlaunch, h⟩ := Program.bind_eq_ok.1 h
    obtain ⟨_, hsynchronize, h⟩ := Program.bind_eq_ok.1 h
    obtain ⟨_, hfree, hpure⟩ := Program.bind_eq_ok.1 h
    cases hpure
    have hupload : (Program.upload env).requests v w =
        [.allocate (1 * Pod.width ε), .store copy.address (Pod.encodeAll [env])] :=
      Program.requests_uploadSlice hcopy
    refine ⟨copy.address, ?_⟩
    rw [if_neg hcount, Program.requests_bind_of_ok hcopy, Program.requests_bind_of_ok houtput,
      Program.requests_bind_of_ok hnote, Program.requests_bind_of_ok hlaunch,
      Program.requests_bind_of_ok hsynchronize, Program.requests_bind_of_ok hfree, hupload,
      Nat.one_mul, Program.requests_allocSlice houtput, Program.note, Program.requests_request,
      Program.launch, Program.requests_request, Program.synchronize, Program.requests_request,
      Program.free, Program.requests_request]
    rfl

theorem passesOn_launch (u : KernelUnit ε ρ) (env : ε) :
    Dialogue.PassesOn (u.launch env : Program τ (Slice ρ)) := by
  unfold launch
  split
  · exact .fail _
  · refine (Program.passesOn_uploadSlice [env]).bind fun input => ?_
    refine (Program.passesOn_allocSlice u.count).bind fun output => ?_
    refine (Dialogue.passesOn_request _).bind fun _ => ?_
    refine (Dialogue.passesOn_request _).bind fun _ => ?_
    refine (Dialogue.passesOn_request _).bind fun _ => ?_
    exact (Dialogue.passesOn_request _).bind fun _ => .done output

theorem passesOn_invoke (u : KernelUnit ε ρ) (env : ε) :
    Dialogue.PassesOn (u.invoke env : Program τ (List ρ)) :=
  (u.passesOn_launch env).bind fun _ => (Dialogue.passesOn_request _).bind fun _ => .done _

end KernelUnit

namespace FaultPlan

/-- The faults that the requests of a kernel unit and the copy of its results can meet, in order. -/
def unitFaults (plan : FaultPlan) (made : Nat) : List (Option Failure) :=
  [plan.allocating made, plan.copyToDevice.map (.deviceCall .copyToDevice),
    plan.allocating (made + 1), plan.launch.map (.deviceCall .launch),
    plan.synchronize.map (.deviceCall .synchronize), plan.free.map (.deviceCall .free),
    plan.copyFromDevice.map (.deviceCall .copyFromDevice)]

theorem findSome?_id_cons {α : Type} (x : Option α) (l : List (Option α)) :
    (x :: l).findSome? id = x.or (l.findSome? id) := by
  cases x <;> rfl

theorem first_invoke {δ τ ε ρ : Type} [Device δ] [Pod ε] [Pod ρ] (plan : FaultPlan) (made : Nat)
    {u : KernelUnit ε ρ} {env : ε} {v : Verbosity} {w : Workspace δ τ} {output : List ρ}
    (h : ((u.invoke env).perform v w).outcome = .ok output) :
    plan.first made ((u.invoke env).requests v w) = (plan.unitFaults made).findSome? id := by
  obtain ⟨s, hs, hdownload⟩ := Program.bind_eq_ok.1 h
  obtain ⟨copy, hrequests⟩ := KernelUnit.requests_launch hs
  rw [KernelUnit.invoke, Program.requests_bind_of_ok hs, hrequests,
    Program.requests_download hdownload]
  simp only [unitFaults, findSome?_id_cons, List.cons_append, List.nil_append, first, met?,
    Request.allocations, Nat.add_zero, Option.none_or, List.findSome?_nil]

end FaultPlan

/-- **A kernel unit that succeeds on a device fails with the first fault that it can meet on the
same device with a plan**, and ends as before if there is none. -/
theorem KernelUnit.meets_invoke {τ ε ρ : Type} [Pod ε] [Pod ρ] (plan : FaultPlan)
    {u : KernelUnit ε ρ} {env : ε} {v : Verbosity} {w : Workspace Emulated τ} {output : List ρ}
    (h : ((u.invoke env).perform v w).outcome = .ok output) :
    Act.Meets (Workspace.armed plan)
      ((plan.unitFaults w.session.device.stats.allocations).findSome? id)
      (Program.perform (u.invoke env)) v w := by
  rw [← plan.first_invoke _ h]
  exact Program.meets_perform plan (u.passesOn_invoke env) h

end Offload
