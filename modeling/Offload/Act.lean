/-
**Actions on a state.**

Everything that works on a device or a session is an action: it reads and changes a state, may stop
with a failure or a panic, and records what it does.  The state is kept however the action ends, so
one can ask what a failed call left behind.

The verbosity decides what is kept in the log, and with that what is computed for it: the fields of
an event that is not kept are not computed.  Computing them may itself panic, so an action may end
differently at different verbosities.

Main definitions:

* `Offload.Step` — what one run of an action leaves: an outcome, a state and a log;
* `Offload.Act` — actions, a monad that stops at the first failure or panic and keeps the state;
* `Offload.Act.attempt`, `Offload.Act.observe` — turning failures, or every ending, into values;
* `Offload.Act.onPart`, `Offload.Act.onFirst` — an action on a part of a larger state;
* `Offload.Act.filling` — an action with a buffer of its own, which is its result;
* `Offload.Act.note`, `Offload.Act.within` — recording an event, and a span around an action.

Main results:

* `Offload.Act.bind_eq_ok` — the inversion of a sequence that ends with a value.
-/

import Offload.Outcome
import Offload.Log

set_option autoImplicit false

namespace Offload

/-- What a run of an action leaves behind. -/
structure Step (σ α : Type) where
  outcome : Outcome α
  state : σ
  log : List Record

/-- A step whose log follows some earlier records. -/
def Step.after {σ α : Type} (log : List Record) (s : Step σ α) : Step σ α :=
  { s with log := log ++ s.log }

@[simp] theorem Step.after_outcome {σ α : Type} (log : List Record) (s : Step σ α) :
    (s.after log).outcome = s.outcome := rfl

@[simp] theorem Step.after_state {σ α : Type} (log : List Record) (s : Step σ α) :
    (s.after log).state = s.state := rfl

@[simp] theorem Step.after_log {σ α : Type} (log : List Record) (s : Step σ α) :
    (s.after log).log = log ++ s.log := rfl

/-- An action on a state of type `σ` with a result of type `α`. -/
def Act (σ α : Type) : Type :=
  Verbosity → σ → Step σ α

namespace Act

variable {σ τ α β : Type}

/-- Ends at once in a given way. -/
def ofOutcome (x : Outcome α) : Act σ α :=
  fun _ s => ⟨x, s, []⟩

/-- Fails. -/
def fail (e : Failure) : Act σ α :=
  ofOutcome (.error e)

/-- Panics. -/
def panic (p : Panic) : Act σ α :=
  ofOutcome (.panic p)

/-- One action, then another that may use its result. -/
def bind (x : Act σ α) (f : α → Act σ β) : Act σ β := fun v s =>
  let r := x v s
  match r.outcome with
  | .ok a => (f a v r.state).after r.log
  | .error e => ⟨.error e, r.state, r.log⟩
  | .panic p => ⟨.panic p, r.state, r.log⟩

instance : Monad (Act σ) where
  pure a := ofOutcome (.ok a)
  bind := bind

/-- The state. -/
def get : Act σ σ :=
  fun _ s => ⟨.ok s, s, []⟩

/-- Changes the state. -/
def modify (f : σ → σ) : Act σ Unit :=
  fun _ s => ⟨.ok (), f s, []⟩

/-- Computes an ending and a new state from the state. -/
def update (f : σ → Outcome α × σ) : Act σ α := fun _ s =>
  let r := f s
  ⟨r.1, r.2, []⟩

/-- Turns a failure into a value; a panic still unwinds. -/
def attempt (x : Act σ α) : Act σ (Except Failure α) := fun v s =>
  let r := x v s
  match r.outcome with
  | .ok a => ⟨.ok (.ok a), r.state, r.log⟩
  | .error e => ⟨.ok (.error e), r.state, r.log⟩
  | .panic p => ⟨.panic p, r.state, r.log⟩

/-- Turns every ending into a value; this is where panics are caught. -/
def observe (x : Act σ α) : Act σ (Outcome α) := fun v s =>
  let r := x v s
  ⟨.ok r.outcome, r.state, r.log⟩

/-- Works on a part of the state. -/
def onPart (part : σ → τ) (put : τ → σ → σ) (x : Act τ α) : Act σ α := fun v s =>
  let r := x v (part s)
  ⟨r.outcome, put r.state s, r.log⟩

/-- Works on the first part of a pair. -/
def onFirst (x : Act σ α) : Act (σ × τ) α :=
  onPart Prod.fst (fun a s => (a, s.2)) x

/-- Gives an action a buffer next to the state, and returns what is in the buffer afterwards. -/
def filling (buffer : τ) (x : Act (σ × τ) Unit) : Act σ τ := fun v s =>
  let r := x v (s, buffer)
  ⟨r.outcome >>= fun _ => .ok r.state.2, r.state.1, r.log⟩

/-- Records an event, if events of its level are kept.  Only then are its fields computed, so only
then does it matter how their computation ends. -/
def note (level : Level) (message : String) (fields : Outcome (List Field)) : Act σ Unit :=
  fun v s =>
    match fields with
    | .ok fields => ⟨.ok (), s, if v.admits level then [.event ⟨level, message, fields⟩] else []⟩
    | .error e => ⟨if v.admits level then .error e else .ok (), s, []⟩
    | .panic p => ⟨if v.admits level then .panic p else .ok (), s, []⟩

/-- Records an action inside a span of the level `info`. -/
def within (span : Span) (x : Act σ α) : Act σ α := fun v s =>
  let r := x v s
  if v.admits .info then { r with log := .enter span :: r.log ++ [.leave] } else r

/-! ### What the building blocks do -/

@[simp] theorem pure_apply (a : α) (v : Verbosity) (s : σ) :
    (pure a : Act σ α) v s = ⟨.ok a, s, []⟩ := rfl

@[simp] theorem fail_apply (e : Failure) (v : Verbosity) (s : σ) :
    (fail e : Act σ α) v s = ⟨.error e, s, []⟩ := rfl

@[simp] theorem panic_apply (p : Panic) (v : Verbosity) (s : σ) :
    (panic p : Act σ α) v s = ⟨.panic p, s, []⟩ := rfl

theorem bind_apply (x : Act σ α) (f : α → Act σ β) (v : Verbosity) (s : σ) :
    (x >>= f) v s = match (x v s).outcome with
      | .ok a => (f a v (x v s).state).after (x v s).log
      | .error e => ⟨.error e, (x v s).state, (x v s).log⟩
      | .panic p => ⟨.panic p, (x v s).state, (x v s).log⟩ := rfl

/-- A sequence goes on with the second action after a first one that returned a value. -/
theorem bind_of_ok {x : Act σ α} {f : α → Act σ β} {v : Verbosity} {s : σ} {a : α}
    (h : (x v s).outcome = .ok a) :
    (x >>= f) v s = (f a v (x v s).state).after (x v s).log := by
  rw [bind_apply, h]

/-- A sequence ends with a value iff both of its parts do. -/
theorem bind_eq_ok {x : Act σ α} {f : α → Act σ β} {v : Verbosity} {s : σ} {b : β} :
    ((x >>= f) v s).outcome = .ok b ↔
      ∃ a, (x v s).outcome = .ok a ∧ (f a v (x v s).state).outcome = .ok b := by
  rw [bind_apply]
  cases h : (x v s).outcome <;> simp

@[simp] theorem get_apply (v : Verbosity) (s : σ) : (get : Act σ σ) v s = ⟨.ok s, s, []⟩ := rfl

@[simp] theorem modify_apply (f : σ → σ) (v : Verbosity) (s : σ) :
    modify f v s = ⟨.ok (), f s, []⟩ := rfl

@[simp] theorem attempt_state (x : Act σ α) (v : Verbosity) (s : σ) :
    (attempt x v s).state = (x v s).state := by
  simp only [attempt]
  split <;> rfl

@[simp] theorem attempt_log (x : Act σ α) (v : Verbosity) (s : σ) :
    (attempt x v s).log = (x v s).log := by
  simp only [attempt]
  split <;> rfl

/-- An event that is not kept is nothing at all. -/
theorem note_of_dropped {l : Level} {v : Verbosity} (h : v.admits l = false) (m : String)
    (fs : Outcome (List Field)) (s : σ) : note l m fs v s = ⟨.ok (), s, []⟩ := by
  cases fs <;> simp [note, h]

/-- An event that is kept ends as the computation of its fields does. -/
theorem note_outcome_of_kept {l : Level} {v : Verbosity} (h : v.admits l = true) (m : String)
    (fs : Outcome (List Field)) (s : σ) :
    (note l m fs v s).outcome = fs >>= fun _ => .ok () := by
  cases fs <;> simp [note, h]

@[simp] theorem note_state (l : Level) (m : String) (fs : Outcome (List Field)) (v : Verbosity)
    (s : σ) : (note l m fs v s).state = s := by
  cases fs <;> rfl

/-- An event with fields that can be computed never stops an action. -/
@[simp] theorem note_ok_outcome (l : Level) (m : String) (fs : List Field) (v : Verbosity) (s : σ) :
    (note l m (.ok fs) v s).outcome = .ok () := rfl

/-- An event stops an action only if it is kept and its fields cannot be computed. -/
theorem note_eq_ok {l : Level} {m : String} {fs : Outcome (List Field)} {v : Verbosity} {s : σ} :
    (note l m fs v s).outcome = .ok () ↔ (v.admits l = true → ∃ fields, fs = .ok fields) := by
  cases h : v.admits l with
  | false => simp [note_of_dropped h]
  | true =>
      rw [note_outcome_of_kept h]
      cases fs <;> simp

theorem note_eq_error {l : Level} {m : String} {fs : Outcome (List Field)} {v : Verbosity} {s : σ}
    {e : Failure} :
    (note l m fs v s).outcome = .error e ↔ v.admits l = true ∧ fs = .error e := by
  cases h : v.admits l with
  | false => simp [note_of_dropped h]
  | true =>
      rw [note_outcome_of_kept h]
      cases fs <;> simp

end Act

end Offload
