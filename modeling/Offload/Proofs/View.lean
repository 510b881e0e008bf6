/-
**Runs seen through a view.**

A device may carry more than what its calls need, such as a record of what was asked of it.  If
forgetting the extra data commutes with every device call, it commutes with everything built from
those calls: with the operations of a session, with every program, and with a whole run.  A run on
the richer device is then the run on the plain one, with the extra data beside it.  The same holds
of the host data of a job, if its programs leave the extra data to others.

Nothing in this depends on what a view is.  Programs, phases and runs are sequences of actions, so
every relation between actions that sequences keep goes from the answers to a program up to the
whole run; `Act.Compatible` says what is needed of it.

Main definitions:

* `Offload.Act.Lifts` — an action on a larger state does what another one does on a view of it;
* `Offload.Act.Compatible` — a relation between actions that sequences keep;
* `Offload.Device.View` — a view of a device that commutes with every device call;
* `Offload.Job.View` — a job that does on the larger workspace what another one does on the view.

Main results:

* `Offload.Act.bind_assoc`, `Offload.Dialogue.run_bind` — sequences of actions and of dialogues;
* `Offload.Dialogue.run_compatible` — a relation that holds of all answers holds of dialogues;
* `Offload.Run.phases_compatible`, `Offload.Run.body_compatible` — the same for jobs and runs;
* `Offload.run_lifts` — **a run does not depend on what the views of its device and of its host data
  hide**.
-/

import Offload.Run

set_option autoImplicit false

namespace Offload

/-- A step with another state. -/
def Step.map {σ τ α : Type} (view : σ → τ) (s : Step σ α) : Step τ α :=
  ⟨s.outcome, view s.state, s.log⟩

@[simp] theorem Step.map_mk {σ τ α : Type} (view : σ → τ) (x : Outcome α) (s : σ)
    (log : List Record) : (Step.mk x s log).map view = ⟨x, view s, log⟩ := rfl

@[simp] theorem Step.after_nil {σ α : Type} (s : Step σ α) : s.after [] = s := rfl

theorem Step.after_after {σ α : Type} (l l' : List Record) (s : Step σ α) :
    (s.after l').after l = s.after (l ++ l') := by
  simp [Step.after]

theorem Step.map_after {σ τ α : Type} (view : σ → τ) (l : List Record) (s : Step σ α) :
    (s.after l).map view = (s.map view).after l := rfl

namespace Act

variable {σ τ σ' τ' α β γ : Type}

/-! ### Sequences -/

theorem bind_assoc (x : Act σ α) (f : α → Act σ β) (g : β → Act σ γ) :
    x >>= f >>= g = x >>= fun a => f a >>= g := by
  funext v s
  cases h : (x v s).outcome with
  | error e => simp only [bind_apply, h]
  | panic p => simp only [bind_apply, h]
  | ok a =>
      simp only [bind_apply, h, Step.after_outcome, Step.after_state, Step.after_log]
      cases (f a v (x v s).state).outcome with
      | error e => rfl
      | panic p => rfl
      | ok b => exact (Step.after_after _ _ _).symm

theorem bind_pure (x : Act σ α) : x >>= pure = x := by
  funext v s
  rw [bind_apply]
  cases h : (x v s).outcome <;> simp [Step.after, ← h]

theorem bind_of_error {x : Act σ α} {f : α → Act σ β} {v : Verbosity} {s : σ} {e : Failure}
    (h : (x v s).outcome = .error e) : (x >>= f) v s = ⟨.error e, (x v s).state, (x v s).log⟩ := by
  rw [bind_apply, h]

theorem bind_of_panic {x : Act σ α} {f : α → Act σ β} {v : Verbosity} {s : σ} {p : Panic}
    (h : (x v s).outcome = .panic p) : (x >>= f) v s = ⟨.panic p, (x v s).state, (x v s).log⟩ := by
  rw [bind_apply, h]

/-- A sequence fails iff its first action fails, or its second one after the first. -/
theorem bind_eq_error {x : Act σ α} {f : α → Act σ β} {v : Verbosity} {s : σ} {e : Failure} :
    ((x >>= f) v s).outcome = .error e ↔
      (x v s).outcome = .error e ∨
        ∃ a, (x v s).outcome = .ok a ∧ (f a v (x v s).state).outcome = .error e := by
  rw [bind_apply]
  cases h : (x v s).outcome <;> simp

theorem bind_of_eq {x : Act σ α} {f : α → Act σ β} {v : Verbosity} {s t : σ} {a : α}
    {log : List Record} (h : x v s = ⟨.ok a, t, log⟩) : (x >>= f) v s = (f a v t).after log := by
  rw [bind_apply, h]

/-- A sequence of actions without results stops with the first one that does not succeed. -/
theorem bind_of_stop {x : Act σ Unit} {f : Unit → Act σ Unit} {v : Verbosity} {s : σ}
    (h : (x v s).outcome ≠ .ok ()) : (x >>= f) v s = x v s := by
  rw [bind_apply]
  cases hx : (x v s).outcome with
  | ok u => exact absurd hx h
  | error e => simp only [← hx]
  | panic p => simp only [← hx]

/-- A sequence leaves what its first action leaves if the second one changes nothing. -/
theorem bind_state {x : Act σ α} {f : α → Act σ β} {v : Verbosity}
    (hf : ∀ a s, (f a v s).state = s) (s : σ) : ((x >>= f) v s).state = (x v s).state := by
  rw [bind_apply]
  cases (x v s).outcome with
  | ok a => exact hf a _
  | error e => rfl
  | panic p => rfl

theorem attempt_of_ok {x : Act σ α} {v : Verbosity} {s : σ} {a : α}
    (h : (x v s).outcome = .ok a) : (x.attempt v s).outcome = .ok (.ok a) := by
  simp only [attempt, h]

theorem attempt_of_error {x : Act σ α} {v : Verbosity} {s : σ} {e : Failure}
    (h : (x v s).outcome = .error e) : (x.attempt v s).outcome = .ok (.error e) := by
  simp only [attempt, h]

theorem attempt_of_panic {x : Act σ α} {v : Verbosity} {s : σ} {p : Panic}
    (h : (x v s).outcome = .panic p) : (x.attempt v s).outcome = .panic p := by
  simp only [attempt, h]

/-! ### Lifting -/

/-- `x` does on the larger state what `y` does on the part of it that the view shows. -/
def Lifts (view : σ → τ) (x : Act σ α) (y : Act τ α) : Prop :=
  ∀ v s, (x v s).map view = y v (view s)

variable {view : σ → τ}

theorem Lifts.outcome {x : Act σ α} {y : Act τ α} (h : Lifts view x y) (v : Verbosity) (s : σ) :
    (y v (view s)).outcome = (x v s).outcome := by
  rw [← h v s]; rfl

theorem Lifts.state {x : Act σ α} {y : Act τ α} (h : Lifts view x y) (v : Verbosity) (s : σ) :
    (y v (view s)).state = view (x v s).state := by
  rw [← h v s]; rfl

theorem Lifts.log {x : Act σ α} {y : Act τ α} (h : Lifts view x y) (v : Verbosity) (s : σ) :
    (y v (view s)).log = (x v s).log := by
  rw [← h v s]; rfl

theorem lifts_ofOutcome (x : Outcome α) : Lifts view (ofOutcome x) (ofOutcome x) :=
  fun _ _ => rfl

theorem lifts_pure (a : α) : Lifts view (pure a : Act σ α) (pure a) :=
  fun _ _ => rfl

theorem lifts_fail (e : Failure) : Lifts view (fail e : Act σ α) (fail e) :=
  fun _ _ => rfl

theorem lifts_panic (p : Panic) : Lifts view (panic p : Act σ α) (panic p) :=
  fun _ _ => rfl

theorem lifts_modify {f : σ → σ} {g : τ → τ} (h : ∀ s, view (f s) = g (view s)) :
    Lifts view (modify f) (modify g) := by
  intro v s
  simp only [modify_apply, Step.map_mk, h]

theorem lifts_note (l : Level) (m : String) (fs : Outcome (List Field)) :
    Lifts view (note l m fs) (note l m fs) := by
  intro v s
  cases fs <;> rfl

theorem lifts_ite {x x' : Act σ α} {y y' : Act τ α} (c : Prop) [Decidable c]
    (h : Lifts view x y) (h' : Lifts view x' y') :
    Lifts view (if c then x else x') (if c then y else y') := by
  split
  · exact h
  · exact h'

theorem Lifts.bind {x : Act σ α} {y : Act τ α} {f : α → Act σ β} {g : α → Act τ β}
    (hx : Lifts view x y) (hf : ∀ a, Lifts view (f a) (g a)) :
    Lifts view (x >>= f) (y >>= g) := by
  intro v s
  rw [bind_apply, bind_apply, hx.outcome, hx.state, hx.log]
  cases (x v s).outcome with
  | ok a => rw [Step.map_after, hf a v (x v s).state]
  | error e => rfl
  | panic p => rfl

/-- An action that first looks at the state lifts if what it does next lifts in every state. -/
theorem lifts_get_bind {f : σ → Act σ β} {g : τ → Act τ β}
    (h : ∀ s, Lifts view (f s) (g (view s))) : Lifts view (get >>= f) (get >>= g) := by
  intro v s
  exact h s v s

theorem Lifts.attempt {x : Act σ α} {y : Act τ α} (h : Lifts view x y) :
    Lifts view x.attempt y.attempt := by
  intro v s
  simp only [Act.attempt, h.outcome, h.state, h.log]
  cases (x v s).outcome <;> rfl

theorem Lifts.within {x : Act σ α} {y : Act τ α} (h : Lifts view x y) (span : Span) :
    Lifts view (x.within span) (y.within span) := by
  intro v s
  simp only [Act.within, ← h v s]
  split <;> rfl

/-- An action on a part lifts along views of the whole and of the part that fit together. -/
theorem Lifts.onPart {view' : σ' → τ'} {part : σ' → σ} {put : σ → σ' → σ'} {part' : τ' → τ}
    {put' : τ → τ' → τ'} {x : Act σ α} {y : Act τ α} (h : Lifts view x y)
    (hpart : ∀ s, part' (view' s) = view (part s))
    (hput : ∀ t s, view' (put t s) = put' (view t) (view' s)) :
    Lifts view' (x.onPart part put) (y.onPart part' put') := by
  intro v s
  simp only [Act.onPart, hpart, h.outcome, h.state, h.log, Step.map_mk, hput]

theorem Lifts.onFirst {host : σ' → τ'} {x : Act σ α} {y : Act τ α} (h : Lifts view x y) :
    Lifts (Prod.map view host) x.onFirst y.onFirst :=
  h.onPart (fun _ => rfl) (fun _ _ => rfl)

/-- An action that fills a buffer lifts if it does so next to the same buffer. -/
theorem Lifts.filling {x : Act (σ × α) Unit} {y : Act (τ × α) Unit}
    (h : Lifts (Prod.map view id) x y) (buffer : α) :
    Lifts view (x.filling buffer) (y.filling buffer) := by
  intro v s
  have hstart : (view s, buffer) = Prod.map view id (s, buffer) := rfl
  simp only [Act.filling, hstart, h.outcome, h.state, h.log, Step.map_mk]
  rfl

/-! ### Relations that sequences keep -/

/-- A relation between actions on two states that holds of the building blocks and that sequences
keep. -/
structure Compatible (R : {α : Type} → Act σ α → Act τ α → Prop) : Prop where
  pure : ∀ {α : Type} (a : α), R (Pure.pure a : Act σ α) (Pure.pure a)
  fail : ∀ {α : Type} (e : Failure), R (fail e : Act σ α) (fail e)
  panic : ∀ {α : Type} (p : Panic), R (panic p : Act σ α) (panic p)
  note : ∀ (l : Level) (m : String) (fs : Outcome (List Field)), R (note l m fs) (note l m fs)
  bind : ∀ {α β : Type} {x : Act σ α} {y : Act τ α} {f : α → Act σ β} {g : α → Act τ β},
    R x y → (∀ a, R (f a) (g a)) → R (x >>= f) (y >>= g)
  attempt : ∀ {α : Type} {x : Act σ α} {y : Act τ α}, R x y → R x.attempt y.attempt

theorem compatible_lifts (view : σ → τ) : Compatible (Lifts view) :=
  ⟨lifts_pure, lifts_fail, lifts_panic, lifts_note, Lifts.bind, Lifts.attempt⟩

end Act

/-! ### Dialogues -/

namespace Dialogue

variable {Q : Type} {A : Q → Type} {α β σ τ : Type}

/-- Running one dialogue after another is running the first and then the second. -/
theorem run_bind (answer : (q : Q) → Act σ (A q)) (p : Dialogue Q A α)
    (f : α → Dialogue Q A β) :
    (p >>= f).run answer = p.run answer >>= fun a => (f a).run answer := by
  induction p with
  | done a => rfl
  | fail e => rfl
  | panic p => rfl
  | ask q next ih =>
      change ((answer q).attempt >>= fun r => ((next r) >>= f).run answer) = _
      simp only [ih]
      exact (Act.bind_assoc _ _ _).symm

/-- A dialogue is related to itself if the answer to every question is. -/
theorem run_compatible {R : {α : Type} → Act σ α → Act τ α → Prop} (hR : Act.Compatible R)
    {answer : (q : Q) → Act σ (A q)} {answer' : (q : Q) → Act τ (A q)}
    (h : ∀ q, R (answer q) (answer' q)) (p : Dialogue Q A α) :
    R (p.run answer) (p.run answer') := by
  induction p with
  | done a => exact hR.pure a
  | fail e => exact hR.fail e
  | panic p => exact hR.panic p
  | ask q next ih => exact hR.bind (hR.attempt (h q)) ih

/-- What the answer to a question and everything that may follow it keep, asking keeps. -/
theorem run_ask_keeps {answer : (q : Q) → Act σ (A q)} {q : Q}
    {next : Except Failure (A q) → Dialogue Q A α} {v : Verbosity} {s : σ} {P : σ → Prop}
    (hanswer : P (answer q v s).state)
    (hnext : ∀ r s, P s → P ((next r).run answer v s).state) :
    P ((ask q next).run answer v s).state := by
  change P (((answer q).attempt >>= fun r => (next r).run answer) v s).state
  cases h : (answer q v s).outcome with
  | ok a =>
      rw [Act.bind_of_ok (Act.attempt_of_ok h), Step.after_state, Act.attempt_state]
      exact hnext _ _ hanswer
  | error e =>
      rw [Act.bind_of_ok (Act.attempt_of_error h), Step.after_state, Act.attempt_state]
      exact hnext _ _ hanswer
  | panic p =>
      rw [Act.bind_of_panic (Act.attempt_of_panic h), Act.attempt_state]
      exact hanswer

end Dialogue

/-! ### Views of a device -/

/-- A view of a device that commutes with every device call. -/
structure Device.View {δ δ' : Type} [Device δ] [Device δ'] (view : δ' → δ) : Prop where
  name : ∀ d, Device.name (view d) = Device.name d
  select : ∀ ordinal, Act.Lifts view (Device.select ordinal) (Device.select ordinal)
  reset : Act.Lifts view Device.reset Device.reset
  allocate : ∀ size, Act.Lifts view (Device.allocate size) (Device.allocate size)
  free : ∀ address, Act.Lifts view (Device.free address) (Device.free address)
  copyToDevice : ∀ address bytes,
    Act.Lifts view (Device.copyToDevice address bytes) (Device.copyToDevice address bytes)
  copyFromDevice : ∀ address, Act.Lifts (Prod.map view id) (Device.copyFromDevice address)
    (Device.copyFromDevice address)
  launch : ∀ kernel geometry args,
    Act.Lifts view (Device.launch kernel geometry args) (Device.launch kernel geometry args)
  synchronize : Act.Lifts view Device.synchronize Device.synchronize
  memoryInfo : ∀ d, Device.memoryInfo (view d) = Device.memoryInfo d

theorem Device.View.read {δ δ' : Type} [Device δ] [Device δ'] {view : δ' → δ}
    (h : Device.View view) (address : Address) (size : Nat) :
    Act.Lifts view (Device.read address size) (Device.read address size) :=
  (h.copyFromDevice address).filling _

/-! ### Sessions -/

/-- Settings that change at most in the flag for debugging. -/
def Config.OnlyFlag (settings : Config → Config) : Prop :=
  ∀ c, settings c = { c with debug := (settings c).debug }

theorem Config.onlyFlag_id : Config.OnlyFlag id :=
  fun _ => rfl

/-- A session on the device that a view shows, with other settings. -/
def Session.adapt {δ δ' : Type} (view : δ' → δ) (settings : Config → Config) (s : Session δ') :
    Session δ :=
  ⟨view s.device, settings s.config, s.tracked, s.earlyFrees⟩

/-- A session on the device that a view shows. -/
def Session.map {δ δ' : Type} (view : δ' → δ) (s : Session δ') : Session δ :=
  ⟨view s.device, s.config, s.tracked, s.earlyFrees⟩

/-- A workspace on the device that a view shows, with the host data that another one shows. -/
def Workspace.map {δ δ' τ τ' : Type} (view : δ' → δ) (host : τ' → τ) (w : Workspace δ' τ') :
    Workspace δ τ :=
  ⟨w.session.map view, host w.host⟩

namespace Session

variable {δ δ' α : Type} {view : δ' → δ} {settings : Config → Config}

theorem lifts_onDevice {x : Act δ' α} {y : Act δ α} (h : Act.Lifts view x y) :
    Act.Lifts (adapt view settings) (onDevice x) (onDevice y) :=
  h.onPart (fun _ => rfl) (fun _ _ => rfl)

theorem lifts_record (a : Allocation) :
    Act.Lifts (adapt view settings) (record a) (record a) := by
  refine Act.lifts_get_bind fun s => ?_
  refine Act.lifts_ite (s.owns a.address = true) (Act.lifts_panic _) (Act.lifts_modify ?_)
  intro s
  rfl

variable [Device δ] [Device δ']

theorem lifts_ensureFits (h : ∀ d, Device.memoryInfo (view d) = Device.memoryInfo d)
    (hsettings : Config.OnlyFlag settings) (size : Nat) :
    Act.Lifts (adapt view settings) (ensureFits size) (ensureFits size) := by
  refine Act.lifts_get_bind fun s => ?_
  have hconfig : (s.adapt view settings).config =
      { s.config with debug := (settings s.config).debug } := hsettings s.config
  rw [hconfig]
  refine Act.lifts_ite (s.config.memCheck = true) ?_ (Act.lifts_pure ())
  change Act.Lifts _ _ (Act.ofOutcome (Device.memoryInfo (view s.device)) >>= _)
  rw [h]
  refine (Act.lifts_ofOutcome _).bind fun info => ?_
  cases info with
  | none => exact Act.lifts_pure ()
  | some info => exact Act.lifts_ite _ (Act.lifts_fail _) (Act.lifts_pure ())

theorem lifts_allocate (h : Device.View view) (size : Nat) :
    Act.Lifts (adapt view id) (allocate size) (allocate size) := by
  refine Act.lifts_ite _ (Act.lifts_fail _) ?_
  refine (lifts_ensureFits h.memoryInfo Config.onlyFlag_id size).bind fun _ => ?_
  refine (lifts_onDevice (h.allocate size)).bind fun address => ?_
  refine (lifts_record _).bind fun _ => ?_
  exact Act.lifts_get_bind fun s => (Act.lifts_note _ _ _).bind fun _ => Act.lifts_pure _

theorem lifts_fetch (h : Device.View view) (address : Address) (size : Nat) :
    Act.Lifts (adapt view settings) (fetch address size) (fetch address size) := by
  exact Act.lifts_ite _ (lifts_onDevice (h.read address size)) (Act.lifts_panic _)

theorem lifts_free (h : Device.View view) (address : Address) :
    Act.Lifts (adapt view settings) (free address) (free address) := by
  refine Act.lifts_get_bind fun s => ?_
  dsimp only [adapt]
  split
  · exact Act.lifts_fail _
  · refine Act.Lifts.bind (Act.lifts_modify ?_) fun _ => ?_
    · intro s
      rfl
    · exact (Act.lifts_note _ _ _).bind fun _ => lifts_onDevice (h.free address)

theorem lifts_launch (h : Device.View view) (kernel : String) (geometry : Geometry)
    (args : List Arg) :
    Act.Lifts (adapt view id) (launch kernel geometry args) (launch kernel geometry args) :=
  Act.lifts_get_bind fun _ =>
    (Act.lifts_note _ _ _).bind fun _ => lifts_onDevice (h.launch kernel geometry args)

theorem lifts_releaseEach (h : Device.View view) (l : List Allocation) :
    Act.Lifts (adapt view settings) (releaseEach l) (releaseEach l) := by
  induction l with
  | nil => exact Act.lifts_pure _
  | cons a rest ih =>
      refine (lifts_onDevice (h.free a.address)).attempt.bind fun result => ?_
      -- the two branches of the report join again in the rest of the list
      have join : ∀ failure : Option Failure, Act.Lifts (adapt view settings)
          (releaseEach rest >>= fun report =>
            pure (Teardown.mk (a.address :: report.released) (failure.or report.firstError)))
          (releaseEach rest >>= fun report =>
            pure (Teardown.mk (a.address :: report.released) (failure.or report.firstError))) :=
        fun failure => ih.bind fun report => Act.lifts_pure _
      cases result with
      | ok u => exact (Act.lifts_pure none).bind join
      | error e =>
          exact (Act.lifts_note _ _ _).bind fun _ => (Act.lifts_pure (some e)).bind join

theorem lifts_teardown (h : Device.View view) :
    Act.Lifts (adapt view settings) teardown teardown := by
  refine Act.lifts_get_bind fun s => ?_
  refine Act.Lifts.bind (Act.lifts_modify ?_) fun _ => lifts_releaseEach h s.tracked
  intro s
  rfl

theorem lifts_abandon (h : Device.View view) :
    Act.Lifts (adapt view settings) abandon abandon := by
  refine Act.lifts_get_bind fun s => ?_
  dsimp only [adapt]
  split
  · exact Act.lifts_pure ()
  · refine (Act.lifts_note _ _ _).bind fun _ => ?_
    exact (lifts_teardown h).bind fun _ => Act.lifts_pure ()

end Session

/-! ### Programs and runs -/

namespace Workspace

variable {δ δ' τ τ' α : Type} {view : δ' → δ} {host : τ' → τ}

theorem lifts_onSession {x : Act (Session δ') α} {y : Act (Session δ) α}
    (h : Act.Lifts (Session.adapt view id) x y) :
    Act.Lifts (Workspace.map view host) (onSession x) (onSession y) :=
  h.onPart (fun _ => rfl) (fun _ _ => rfl)

variable [Device δ] [Device δ']

/-- One case for each thing that a program may ask for. -/
theorem lifts_answer (h : Device.View view) (q : Request τ) :
    Act.Lifts (Workspace.map view id) (answer q) (answer q) := by
  cases q with
  | allocate size => exact lifts_onSession (Session.lifts_allocate h size)
  | store address bytes =>
      exact lifts_onSession (Session.lifts_onDevice (h.copyToDevice address bytes))
  | fetch address size => exact lifts_onSession (Session.lifts_fetch h address size)
  | free address => exact lifts_onSession (Session.lifts_free h address)
  | launch kernel geometry args =>
      exact lifts_onSession (Session.lifts_launch h kernel geometry args)
  | synchronize => exact lifts_onSession (Session.lifts_onDevice h.synchronize)
  | inspect =>
      refine Act.lifts_get_bind fun w => ?_
      change Act.Lifts _ _ (pure (SessionView.mk (Device.name (view w.session.device)) _ _ _))
      rw [h.name]
      exact Act.lifts_pure _
  | note level message fields => exact Act.lifts_note _ _ _
  | load => exact Act.lifts_get_bind fun w => Act.lifts_pure _
  | save data =>
      refine Act.lifts_modify ?_
      intro w
      rfl

theorem lifts_scope (h : Device.View view) (config : Config) {x : Act (Workspace δ' τ') α}
    {y : Act (Workspace δ τ) α} (hx : Act.Lifts (Workspace.map view host) x y) :
    Act.Lifts (Prod.map view host) (scope config x) (scope config y) := by
  intro v s
  have hstart : (⟨Session.start (view s.1) config, host s.2⟩ : Workspace δ τ) =
      Workspace.map view host ⟨Session.start s.1 config, s.2⟩ := rfl
  have hsession : ∀ w : Workspace δ' τ', (w.map view host).session = w.session.adapt view id :=
    fun _ => rfl
  have habandon : Act.Lifts (Session.adapt view id) Session.abandon Session.abandon :=
    Session.lifts_abandon h
  simp only [scope, Prod.map_fst, Prod.map_snd, hstart, hx.outcome, hx.state, hx.log,
    hsession, habandon.outcome, habandon.state, habandon.log, Step.map_mk]
  rfl

end Workspace

/-- A job whose programs do in the larger workspace what those of another job do in the part that
the views show. -/
structure Job.View {δ δ' τ τ' ε σ ρ : Type} [Device δ] [Device δ'] (view : δ' → δ) (host : τ' → τ)
    (job' : Job τ' ε σ ρ) (job : Job τ ε σ ρ) : Prop where
  prepare : ∀ env, Act.Lifts (Workspace.map view host) (job'.prepare env).perform
    (job.prepare env).perform
  launch : ∀ staged, Act.Lifts (Workspace.map view host) (job'.launch staged).perform
    (job.launch staged).perform
  copyBack : ∀ staged, Act.Lifts (Workspace.map view host) (job'.copyBack staged).perform
    (job.copyBack staged).perform

/-- A program does not depend on what a view of its device hides. -/
theorem Program.lifts_perform {δ δ' τ α : Type} [Device δ] [Device δ'] {view : δ' → δ}
    (h : Device.View view) (p : Program τ α) :
    Act.Lifts (Workspace.map view id) p.perform p.perform :=
  Dialogue.run_compatible (Act.compatible_lifts _) (Workspace.lifts_answer h) p

theorem Job.view_self {δ δ' τ ε σ ρ : Type} [Device δ] [Device δ'] {view : δ' → δ}
    (h : Device.View view) (job : Job τ ε σ ρ) : Job.View view id job job :=
  ⟨fun _ => Program.lifts_perform h _, fun _ => Program.lifts_perform h _,
    fun _ => Program.lifts_perform h _⟩

namespace Run

variable {δ δ' τ τ' ε σ ρ α β γ : Type}

section Compatible

variable {R : {α : Type} → Act β α → Act γ α → Prop}

theorem advance_compatible (hR : Act.Compatible R) (source target : Stage) :
    R (advance source target) (advance source target) := by
  unfold advance
  split
  · exact hR.bind (hR.note _ _ _) fun _ => hR.pure _
  · exact hR.panic _

theorem giveUp_compatible (hR : Act.Compatible R) (message : String) (e : Failure)
    (stage : Stage) :
    R (giveUp message e stage : Act β (Report ρ)) (giveUp message e stage) :=
  hR.bind (hR.note _ _ _) fun _ => hR.bind (advance_compatible hR _ _) fun _ => hR.pure _

end Compatible

section Programs

variable [Device δ] [Device δ'] {job' : Job τ' ε σ ρ} {job : Job τ ε σ ρ}
  {R : {α : Type} → Act (Workspace δ' τ') α → Act (Workspace δ τ) α → Prop}

/-- What relates the programs of two jobs relates the phases of their runs. -/
theorem phases_compatible (hR : Act.Compatible R)
    (hprepare : ∀ env, R (job'.prepare env).perform (job.prepare env).perform)
    (hlaunch : ∀ staged, R (job'.launch staged).perform (job.launch staged).perform)
    (hcopyBack : ∀ staged, R (job'.copyBack staged).perform (job.copyBack staged).perform)
    (watch : Stopwatch) (env : ε) (report : Report ρ) (stage : Stage) :
    R (phases watch job' env report stage) (phases watch job env report stage) := by
  refine hR.bind (advance_compatible hR _ _) fun stage => ?_
  refine hR.bind (hR.attempt (hprepare env)) fun prepared => ?_
  cases prepared with
  | error e => exact hR.bind (hR.note _ _ _) fun _ => hR.pure _
  | ok staged =>
      refine hR.bind (advance_compatible hR _ _) fun stage => ?_
      refine hR.bind (hR.attempt (hlaunch staged)) fun launched => ?_
      cases launched with
      | error e => exact hR.bind (hR.note _ _ _) fun _ => hR.pure _
      | ok staged =>
          refine hR.bind (advance_compatible hR _ _) fun stage => ?_
          refine hR.bind (hR.attempt (hcopyBack staged)) fun copied => ?_
          cases copied with
          | error e => exact hR.bind (hR.note _ _ _) fun _ => hR.pure _
          | ok output => exact hR.pure _

theorem session_compatible (hR : Act.Compatible R) {watch : Stopwatch} {env : ε}
    {report : Report ρ} {stage : Stage}
    (hphases : R (phases watch job' env report stage) (phases watch job env report stage))
    (hteardown : R (Workspace.onSession Session.teardown)
      (Workspace.onSession Session.teardown)) :
    R (session watch job' env report stage) (session watch job env report stage) := by
  refine hR.bind hphases fun reached => ?_
  refine hR.bind (advance_compatible hR _ _) fun stage => ?_
  exact hR.bind hteardown fun _ => hR.pure _

end Programs

/-- Two runs are related if their device calls and their sessions are. -/
theorem body_compatible [Device δ] [Device δ'] {job' : Job τ' ε σ ρ} {job : Job τ ε σ ρ}
    {R : {α : Type} → Act (δ' × τ') α → Act (δ × τ) α → Prop} (hR : Act.Compatible R)
    {config' config : Config} (hordinal : config'.deviceOrdinal = config.deviceOrdinal)
    {watch : Stopwatch} {env : ε}
    (hselect : ∀ ordinal, R (onDevice (Device.select ordinal)) (onDevice (Device.select ordinal)))
    (hreset : R (onDevice Device.reset) (onDevice Device.reset))
    (hscope : ∀ report stage,
      R (Workspace.scope config' (session watch job' env report stage))
        (Workspace.scope config (session watch job env report stage))) :
    R (body config' watch job' env) (body config watch job env) := by
  unfold body
  rw [hordinal]
  refine hR.bind (advance_compatible hR _ _) fun stage => ?_
  refine hR.bind (hR.attempt (hselect _)) fun selected => ?_
  cases selected with
  | error e => exact giveUp_compatible hR _ _ _
  | ok u =>
      refine hR.bind (hR.attempt hreset) fun cleared => ?_
      cases cleared with
      | error e => exact giveUp_compatible hR _ _ _
      | ok u =>
          refine hR.bind (hscope _ _) fun reached => ?_
          refine hR.bind (advance_compatible hR _ _) fun stage => ?_
          exact hR.bind (hR.note _ _ _) fun _ => hR.pure _

theorem lifts_onDevice {view : δ' → δ} {host : τ' → τ} {x : Act δ' α} {y : Act δ α}
    (h : Act.Lifts view x y) : Act.Lifts (Prod.map view host) (onDevice x) (onDevice y) :=
  h.onFirst

variable [Device δ] [Device δ'] {view : δ' → δ} {host : τ' → τ} {job' : Job τ' ε σ ρ}
  {job : Job τ ε σ ρ}

theorem lifts_body (h : Device.View view) (hjob : Job.View view host job' job) (config : Config)
    (watch : Stopwatch) (env : ε) :
    Act.Lifts (Prod.map view host) (body config watch job' env) (body config watch job env) := by
  refine body_compatible (Act.compatible_lifts _) rfl (fun _ => lifts_onDevice (h.select _))
    (lifts_onDevice h.reset) fun report stage => ?_
  refine Workspace.lifts_scope h config (session_compatible (Act.compatible_lifts _) ?_ ?_)
  · exact phases_compatible (Act.compatible_lifts _) hjob.prepare hjob.launch hjob.copyBack
      watch env report stage
  · exact Workspace.lifts_onSession (Session.lifts_teardown h)

end Run

/-- **A run does not depend on what the views of its device and of its host data hide.** -/
theorem run_lifts {δ δ' τ τ' ε σ ρ : Type} [Device δ] [Device δ'] {view : δ' → δ} {host : τ' → τ}
    {job' : Job τ' ε σ ρ} {job : Job τ ε σ ρ} (h : Device.View view)
    (hjob : Job.View view host job' job) (config : Config) (watch : Stopwatch) (env : ε) :
    Act.Lifts (Prod.map view host) (run config watch job' env) (run config watch job env) := by
  intro v s
  simp only [run, Prod.map_fst, h.name]
  exact ((Run.lifts_body h hjob config watch env).within _) v s

end Offload
