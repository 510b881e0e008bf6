/-
**Jobs that mark their programs.**

To see which programs of a job a run starts, the job is made to leave a mark on the host at the
start of each of them.  The marks lie beside the host data of the job, where its own programs do not
see them, so the marked job runs as the plain one does.

Main definitions:

* `Offload.Part` — the parts of a run that may fail;
* `Offload.Program.beside` — a program whose host data has something beside it;
* `Offload.Job.marked` — a job that marks each program that is started.

Main results:

* `Offload.Program.beside_lifts`, `Offload.Program.beside_kept` — such a program does what it did
  before and keeps what lies beside its data;
* `Offload.Program.marked_host` — a marked program leaves its mark, however it ends;
* `Offload.Job.marked_view` — **marks do not change a run**.
-/

import Offload.Proofs.View

set_option autoImplicit false

namespace Offload

/-- A part of a run that may fail. -/
inductive Part where
  | select
  | reset
  | prepare
  | launch
  | copyBack
  | release
deriving DecidableEq, Repr

/-- Asks with something beside the host data, and passes on the answer of the plain request. -/
def Request.beside {τ κ α : Type} : (q : Request τ) →
    (Except Failure q.Answer → Program (τ × κ) α) → Program (τ × κ) α
  | .allocate size, next => .ask (.allocate size) next
  | .store address bytes, next => .ask (.store address bytes) next
  | .fetch address size, next => .ask (.fetch address size) next
  | .free address, next => .ask (.free address) next
  | .launch kernel geometry args, next => .ask (.launch kernel geometry args) next
  | .synchronize, next => .ask .synchronize next
  | .inspect, next => .ask .inspect next
  | .note level message fields, next => .ask (.note level message fields) next
  | .load, next => .ask .load fun answer => next (answer.map Prod.fst)
  | .save data, next => .ask .load fun
      | .ok host => .ask (.save (data, host.2)) next
      | .error e => next (.error e)

namespace Program

variable {δ τ κ α : Type}

/-- A program whose host data has something beside it. -/
def beside : Program τ α → Program (τ × κ) α
  | .done a => .done a
  | .fail e => .fail e
  | .panic p => .panic p
  | .ask q next => q.beside fun answer => beside (next answer)

/-- A program that leaves a mark first. -/
def marked (part : Part) (p : Program τ α) : Program (τ × List Part) α := do
  let host ← load
  save (host.1, host.2 ++ [part])
  beside p

end Program

/-- A job that marks each program that is started. -/
def Job.marked {τ ε σ ρ : Type} (job : Job τ ε σ ρ) : Job (τ × List Part) ε σ ρ where
  prepare env := (job.prepare env).marked .prepare
  launch staged := (job.launch staged).marked .launch
  copyBack staged := (job.copyBack staged).marked .copyBack

theorem Device.view_id {δ : Type} [Device δ] : Device.View (id : δ → δ) :=
  ⟨fun _ => rfl, fun _ _ _ => rfl, fun _ _ => rfl, fun _ _ _ => rfl, fun _ _ _ => rfl,
    fun _ _ _ _ => rfl, fun _ _ _ => rfl, fun _ _ _ _ _ => rfl, fun _ _ => rfl, fun _ => rfl⟩

namespace Workspace

variable {δ τ κ α : Type}

/-- The workspace without what lies beside the host data. -/
def plain (w : Workspace δ (τ × κ)) : Workspace δ τ :=
  w.map id Prod.fst

theorem lifts_onSession_plain (x : Act (Session δ) α) :
    Act.Lifts (plain : Workspace δ (τ × κ) → Workspace δ τ) (onSession x) (onSession x) := by
  have h : Act.Lifts (Session.map (id : δ → δ)) x x := fun _ _ => rfl
  exact lifts_onSession h

end Workspace

namespace Program

variable {δ τ κ α : Type} [Device δ]

/-- A program with something beside its host data does what it did before. -/
theorem beside_lifts (p : Program τ α) :
    Act.Lifts (Workspace.plain : Workspace δ (τ × κ) → Workspace δ τ)
      (perform (beside p)) (perform p) := by
  induction p with
  | done a => exact Act.lifts_pure a
  | fail e => exact Act.lifts_fail e
  | panic p => exact Act.lifts_panic p
  | ask q next ih =>
      cases q with
      | allocate size => exact (Workspace.lifts_onSession_plain _).attempt.bind ih
      | store address bytes => exact (Workspace.lifts_onSession_plain _).attempt.bind ih
      | fetch address size => exact (Workspace.lifts_onSession_plain _).attempt.bind ih
      | free address => exact (Workspace.lifts_onSession_plain _).attempt.bind ih
      | launch kernel geometry args => exact (Workspace.lifts_onSession_plain _).attempt.bind ih
      | synchronize => exact (Workspace.lifts_onSession_plain _).attempt.bind ih
      | inspect =>
          refine Act.Lifts.bind (Act.Lifts.attempt ?_) ih
          exact Act.lifts_get_bind fun w => Act.lifts_pure _
      | note level message fields =>
          exact (Act.lifts_note level message (.ok fields)).attempt.bind ih
      | load =>
          intro v w
          exact ih (.ok w.host.1) v w
      | save data =>
          intro v w
          exact ih (.ok ()) v { w with host := (data, w.host.2) }

theorem ask_kept (q : Request (τ × κ)) {next : Except Failure q.Answer → Program (τ × κ) α}
    {v : Verbosity} {w : Workspace δ (τ × κ)}
    (hanswer : (Workspace.answer q v w).state.host.2 = w.host.2)
    (hnext : ∀ r (w : Workspace δ (τ × κ)), (perform (next r) v w).state.host.2 = w.host.2) :
    (perform (.ask q next) v w).state.host.2 = w.host.2 :=
  Dialogue.run_ask_keeps (P := fun w' => w'.host.2 = w.host.2) hanswer
    fun r w' hw => (hnext r w').trans hw

/-- It keeps what lies there, however it ends. -/
theorem beside_kept (p : Program τ α) (v : Verbosity) (w : Workspace δ (τ × κ)) :
    (perform (beside p) v w).state.host.2 = w.host.2 := by
  induction p generalizing w with
  | done a => rfl
  | fail e => rfl
  | panic p => rfl
  | ask q next ih =>
      cases q with
      | allocate size => exact ask_kept (.allocate size) rfl ih
      | store address bytes => exact ask_kept (.store address bytes) rfl ih
      | fetch address size => exact ask_kept (.fetch address size) rfl ih
      | free address => exact ask_kept (.free address) rfl ih
      | launch kernel geometry args => exact ask_kept (.launch kernel geometry args) rfl ih
      | synchronize => exact ask_kept .synchronize rfl ih
      | inspect => exact ask_kept .inspect rfl ih
      | note level message fields => exact ask_kept (.note level message fields) rfl ih
      | load => exact ih (.ok w.host.1) w
      | save data => exact ih (.ok ()) { w with host := (data, w.host.2) }

/-- A marked program does what the plain one does. -/
theorem marked_lifts (part : Part) (p : Program τ α) :
    Act.Lifts (Workspace.plain : Workspace δ (τ × List Part) → Workspace δ τ)
      (perform (marked part p)) (perform p) := by
  intro v w
  exact beside_lifts p v { w with host := (w.host.1, w.host.2 ++ [part]) }

/-- **A marked program leaves its mark**, however it ends. -/
theorem marked_host (part : Part) (p : Program τ α) (v : Verbosity)
    (w : Workspace δ (τ × List Part)) :
    (perform (marked part p) v w).state.host.2 = w.host.2 ++ [part] :=
  beside_kept p v { w with host := (w.host.1, w.host.2 ++ [part]) }

end Program

/-- **Marks do not change a run.** -/
theorem Job.marked_view {δ τ ε σ ρ : Type} [Device δ] (job : Job τ ε σ ρ) :
    Job.View (id : δ → δ) Prod.fst job.marked job :=
  ⟨fun _ => Program.marked_lifts _ _, fun _ => Program.marked_lifts _ _,
    fun _ => Program.marked_lifts _ _⟩

end Offload
