/-
**Debugging sessions.**

A debugging session records allocations and launches as important events.  With each launch it
records how many threads that has, and with each allocation how many bytes it owns, as every session
does whose events are kept.  Both are sums or products in a machine word, and both are computed only
if important events are kept.  A launch may have more threads than a machine word can count; then
the debugging session panics before it reaches its device, where a quiet session would have queued
the launch.  A device may also grant more bytes than a machine word can count; then an allocation is
made and recorded, and the debugging session panics, where a quiet session may not have counted.

These are the only differences.  A run of a job in a debugging session is the run of that job in a
quiet session if the job does the counting: if every request is wrapped in a program that counts
threads before a launch and bytes after an allocation, and that tells the job that it is being
debugged whenever it looks.  The two runs end alike and leave the same device and the same host
data, on every device and for every job; only their logs differ.  On an emulated device the bytes
can always be counted, so there only launches matter.  Below the level of important events nothing
is counted, and nothing differs but what the job sees.

Main definitions:

* `Offload.Act.Echoes` — two actions that differ at most in their logs, seen through a view;
* `Offload.Dialogue.through` — a dialogue with a dialogue in the place of each question;
* `Offload.Request.tally`, `Offload.Request.audit`, `Offload.Request.shown` — what debugging adds to
  a request;
* `Offload.Request.tallied`, `Offload.Request.counted` — a request that counts threads, and one that
  counts bytes too;
* `Offload.Job.Indifferent` — a job for which counting threads changes nothing.

Main results:

* `Offload.Workspace.echoes_counted` — a request in a debugging session;
* `Offload.Workspace.echoes_tallied` — the same where bytes can be counted;
* `Offload.Run.echoes_run` — **a debugging run is a quiet run that counts**;
* `Offload.Run.debugging_only_counts` — what debugging changes, for requests and for runs.
-/

import Offload.Proofs.Tracking
import Offload.Proofs.Emulated.Threads

set_option autoImplicit false

namespace Offload

/-! ### Actions that differ in their logs -/

namespace Act

variable {σ τ σ' τ' α β : Type} {v : Verbosity} {P : σ → Prop} {view : σ → τ}

/-- From a state with the property `P`, which `x` keeps, `y` ends on the state that the view shows
as `x` does, and leaves what the view shows of the state that `x` leaves.  The logs may differ. -/
def Echoes (v : Verbosity) (P : σ → Prop) (view : σ → τ) (x : Act σ α) (y : Act τ α) : Prop :=
  ∀ s, P s → (y v (view s)).outcome = (x v s).outcome ∧
    (y v (view s)).state = view (x v s).state ∧ P (x v s).state

theorem Lifts.echoes {x : Act σ α} {y : Act τ α} (h : Lifts view x y)
    (hkept : ∀ s, P s → P (x v s).state) : Echoes v P view x y :=
  fun s hs => ⟨h.outcome v s, h.state v s, hkept s hs⟩

theorem Echoes.bind {x : Act σ α} {y : Act τ α} {f : α → Act σ β} {g : α → Act τ β}
    (hx : Echoes v P view x y) (hf : ∀ a, Echoes v P view (f a) (g a)) :
    Echoes v P view (x >>= f) (y >>= g) := by
  intro s hs
  obtain ⟨houtcome, hstate, hkept⟩ := hx s hs
  rw [bind_apply, bind_apply, houtcome, hstate]
  cases (x v s).outcome with
  | ok a => exact hf a (x v s).state hkept
  | error e => exact ⟨rfl, rfl, hkept⟩
  | panic p => exact ⟨rfl, rfl, hkept⟩

theorem Echoes.attempt {x : Act σ α} {y : Act τ α} (h : Echoes v P view x y) :
    Echoes v P view x.attempt y.attempt := by
  intro s hs
  obtain ⟨houtcome, hstate, hkept⟩ := h s hs
  rw [attempt_state, attempt_state]
  refine ⟨?_, hstate, hkept⟩
  simp only [Act.attempt, houtcome]
  cases (x v s).outcome <;> rfl

theorem Echoes.within {x : Act σ α} {y : Act τ α} (h : Echoes v P view x y) (span : Span) :
    Echoes v P view (x.within span) (y.within span) := by
  intro s hs
  unfold Act.within
  split <;> exact h s hs

theorem compatible_echoes (v : Verbosity) (P : σ → Prop) (view : σ → τ) :
    Compatible (Echoes v P view) where
  pure a := (lifts_pure a).echoes fun _ h => h
  fail e := (lifts_fail e).echoes fun _ h => h
  panic p := (lifts_panic p).echoes fun _ h => h
  note l m fs := (lifts_note l m fs).echoes fun _ h => (note_state ..).symm ▸ h
  bind := Echoes.bind
  attempt := Echoes.attempt

/-- After an action that returned a value, an attempt concerns only what follows. -/
theorem attempt_bind_of_ok {x : Act σ α} {f : α → Act σ β} {v : Verbosity} {s : σ} {a : α}
    (h : (x v s).outcome = .ok a) :
    (x >>= f).attempt v s = (x >>= fun a => (f a).attempt) v s := by
  rw [bind_of_ok h]
  simp only [Act.attempt, bind_of_ok h, Step.after_outcome, Step.after_state, Step.after_log]
  cases (f a v (x v s).state).outcome <;> rfl

theorem attempt_bind (x : Act σ α) (f : Except Failure α → Act σ β) :
    (x.attempt >>= f).attempt = x.attempt >>= fun r => (f r).attempt := by
  funext v s
  cases hx : (x v s).outcome with
  | ok a => exact attempt_bind_of_ok (attempt_of_ok hx)
  | error e => exact attempt_bind_of_ok (attempt_of_error hx)
  | panic p =>
      -- a panic passes both attempts
      have hattempt := attempt_of_panic hx
      rw [bind_of_panic hattempt]
      simp only [Act.attempt, bind_of_panic hattempt]

end Act

/-! ### Dialogues with other questions -/

namespace Dialogue

variable {Q : Type} {A : Q → Type} {α σ : Type}

/-- A dialogue in which each question is replaced by a dialogue that finds the answer. -/
def through (f : (q : Q) → Dialogue Q A (A q)) : Dialogue Q A α → Dialogue Q A α
  | done a => done a
  | fail e => fail e
  | panic p => panic p
  | ask q next => (f q).attempt >>= fun r => (next r).through f

theorem run_attempt (answer : (q : Q) → Act σ (A q)) (p : Dialogue Q A α) :
    p.attempt.run answer = (p.run answer).attempt := by
  induction p with
  | done a => rfl
  | fail e => rfl
  | panic p => rfl
  | ask q next ih =>
      change ((answer q).attempt >>= fun r => (next r).attempt.run answer) =
        ((answer q).attempt >>= fun r => (next r).run answer).attempt
      rw [Act.attempt_bind]
      simp only [ih]

/-- Replacing the questions is replacing the answers. -/
theorem run_through (answer : (q : Q) → Act σ (A q)) (f : (q : Q) → Dialogue Q A (A q))
    (p : Dialogue Q A α) : (p.through f).run answer = p.run fun q => (f q).run answer := by
  induction p with
  | done a => rfl
  | fail e => rfl
  | panic p => rfl
  | ask q next ih =>
      change (((f q).attempt >>= fun r => (next r).through f).run answer) =
        ((f q).run answer).attempt >>= fun r => (next r).run fun q => (f q).run answer
      rw [run_bind, run_attempt]
      simp only [ih]

end Dialogue

/-! ### What debugging adds -/

/-- What is computed for an important event: nothing, unless such events are kept. -/
def Verbosity.computed (v : Verbosity) (x : Outcome Unit) : Outcome Unit :=
  if v.admits .info then x else .ok ()

namespace Request

variable {τ : Type}

/-- What a debugging session computes for its log before it grants a request: it counts the threads
of a launch. -/
def tally : Request τ → Outcome Unit
  | .launch _ geometry _ => do
      let _ ← geometry.totalThreads
      pure ()
  | _ => .ok ()

/-- What it computes after it has granted a request, from the list of what it owns: it counts the
bytes after an allocation. -/
def audit : Request τ → List Allocation → Outcome Unit
  | .allocate _, tracked => do
      let _ ← Word.sum (tracked.map Allocation.size)
      pure ()
  | _, _ => .ok ()

/-- An answer as a debugging session gives it: who looks at the session sees the flag. -/
def shown : (q : Request τ) → q.Answer → q.Answer
  | .inspect, view => { view with config := { view.config with debug := true } }
  | _, a => a

/-- A request with the count of its threads. -/
def tallied (v : Verbosity) (q : Request τ) : Program τ q.Answer := do
  Dialogue.ofOutcome (v.computed q.tally)
  let a ← Dialogue.request q
  pure (q.shown a)

/-- A request with all the work that debugging adds. -/
def counted (v : Verbosity) (q : Request τ) : Program τ q.Answer := do
  Dialogue.ofOutcome (v.computed q.tally)
  let a ← Dialogue.request q
  let view ← Program.inspect
  Dialogue.ofOutcome (v.computed (q.audit view.tracked))
  pure (q.shown a)

theorem tally_launch_eq_ok_iff {kernel : String} {geometry : Geometry} {args : List Arg} :
    (launch kernel geometry args : Request τ).tally = .ok () ↔
      geometry.grid.count < Word.bound ∧ geometry.block.count < Word.bound ∧
        geometry.count < Word.bound := by
  unfold tally
  simp only [Outcome.bind_eq_ok, Geometry.totalThreads_eq_ok_iff]
  constructor
  · rintro ⟨n, ⟨hgrid, hblock, hcount, -⟩, -⟩
    exact ⟨hgrid, hblock, hcount⟩
  · rintro ⟨hgrid, hblock, hcount⟩
    exact ⟨_, ⟨hgrid, hblock, hcount, rfl⟩, rfl⟩

end Request

/-- A product that does not fit in a word panics. -/
theorem Word.mul_cases (a b : Nat) :
    Word.mul a b = .ok (a * b) ∨ Word.mul a b = .panic .mulOverflow := by
  unfold Word.mul
  split
  · exact Or.inl rfl
  · exact Or.inr rfl

theorem Extent.volume_cases (e : Extent) :
    (∃ n, e.volume = .ok n) ∨ e.volume = .panic .mulOverflow := by
  unfold volume
  rcases Word.mul_cases e.x.toNat e.y.toNat with h | h
  · rw [h, Outcome.ok_bind]
    exact (Word.mul_cases _ _).imp (fun h => ⟨_, h⟩) id
  · rw [h]
    exact Or.inr rfl

theorem Geometry.totalThreads_cases (g : Geometry) :
    (∃ n, g.totalThreads = .ok n) ∨ g.totalThreads = .panic .mulOverflow := by
  unfold totalThreads
  rcases g.grid.volume_cases with ⟨blocks, h⟩ | h
  · rw [h, Outcome.ok_bind]
    rcases g.block.volume_cases with ⟨threads, h⟩ | h
    · rw [h, Outcome.ok_bind]
      exact (Word.mul_cases _ _).imp (fun h => ⟨_, h⟩) id
    · rw [h]
      exact Or.inr rfl
  · rw [h]
    exact Or.inr rfl

/-! ### Sessions -/

/-- Settings with the flag set or not. -/
def Config.debugging (flag : Bool) (c : Config) : Config :=
  { c with debug := flag }

theorem Config.onlyFlag_debugging (flag : Bool) : Config.OnlyFlag (Config.debugging flag) :=
  fun _ => rfl

/-- A session with the flag set or not. -/
def Session.debugging {δ : Type} (flag : Bool) (s : Session δ) : Session δ :=
  s.adapt id (Config.debugging flag)

/-- A workspace with the flag set or not. -/
def Workspace.debugging {δ τ : Type} (flag : Bool) (w : Workspace δ τ) : Workspace δ τ :=
  { w with session := w.session.debugging flag }

namespace Session

variable {δ : Type} {v : Verbosity}

/-- The event of an allocation is kept at one level or the other.  At the level of a debugging
session the bytes are counted, whether or not they have been counted before. -/
theorem announce_debugging (size : Nat) (address : Address) (v : Verbosity) (s : Session δ) :
    (announce size address v (s.debugging true)).outcome =
      ((announce size address v s).outcome >>= fun address =>
        v.computed (Request.audit (.allocate size : Request Unit) s.tracked) >>= fun _ =>
          .ok address) := by
  have hloud : (announce size address v (s.debugging true)).outcome =
      if v.admits .info then s.allocatedBytes >>= fun _ => .ok address else .ok address :=
    announce_outcome size address v (s.debugging true)
  have haudit : Request.audit (.allocate size : Request Unit) s.tracked =
      s.allocatedBytes >>= fun _ => .ok () := rfl
  rw [hloud, announce_outcome, haudit, Verbosity.computed]
  cases hinfo : v.admits .info with
  | true => cases s.allocatedBytes <;> cases v.admits s.eventLevel <;> rfl
  | false =>
      -- the quiet level is the less important one, so its events are not kept either
      have hquiet : v.admits s.eventLevel = false := by
        refine Bool.eq_false_iff.2 fun hkept => ?_
        refine absurd (Verbosity.admits_of_rank_le ?_ hkept) (Bool.eq_false_iff.1 hinfo)
        unfold eventLevel
        split <;> decide
      rw [hquiet]
      rfl

variable [Device δ]

/-- Debugging makes no difference to what an allocation does before its event. -/
theorem lifts_claim (size : Nat) (flag : Bool) :
    Act.Lifts (debugging flag) (claim size : Act (Session δ) Address) (claim size) := by
  refine Act.lifts_ite _ (Act.lifts_fail _) ?_
  refine (lifts_ensureFits Device.view_id.memoryInfo (Config.onlyFlag_debugging flag)
    size).bind fun _ => ?_
  refine (lifts_onDevice (Device.view_id.allocate size)).bind fun address => ?_
  exact (lifts_record _).bind fun _ => Act.lifts_pure _

/-- Where both levels are kept, an allocation succeeds only if its bytes have been counted. -/
theorem audit_of_allocated {size : Nat} {address : Address} {s : Session δ}
    (hkept : v.admits .info = true → v.admits .debug = true)
    (h : (allocate size v s).outcome = .ok address) :
    v.computed (Request.audit (.allocate size : Request Unit) (allocate size v s).state.tracked) =
      .ok () := by
  obtain ⟨houtcome, hstate⟩ := allocate_apply size v s
  rw [houtcome] at h
  obtain ⟨granted, -, hannounce⟩ := Outcome.bind_eq_ok.1 h
  rw [hstate, Verbosity.computed]
  split
  · rename_i hinfo
    have hlevel : v.admits (claim size v s).state.eventLevel = true := by
      unfold eventLevel
      split
      · exact hinfo
      · exact hkept hinfo
    rw [announce_outcome, if_pos hlevel] at hannounce
    obtain ⟨n, hbytes, -⟩ := Outcome.bind_eq_ok.1 hannounce
    exact congrArg (fun x : Outcome Nat => x >>= fun _ => .ok ()) hbytes
  · rfl

/-- The events of a launch differ in their fields, and both can be computed if the threads can be
counted. -/
theorem echoes_launch {geometry : Geometry}
    (h : v.admits .info = true → ∃ n, geometry.totalThreads = .ok n) (kernel : String)
    (args : List Arg) :
    Act.Echoes v (fun _ => True) (debugging true)
      (launch kernel geometry args : Act (Session δ) Unit) (launch kernel geometry args) := by
  intro s _
  obtain ⟨houtcome, hstate⟩ := launch_of_counted (s := s) (fun _ => h) kernel args
  obtain ⟨houtcome', hstate'⟩ :=
    launch_of_counted (s := s.debugging true) (fun _ => h) kernel args
  rw [houtcome, hstate, houtcome', hstate']
  exact ⟨rfl, rfl, trivial⟩

end Session

/-! ### Requests -/

namespace Workspace

variable {δ τ α : Type} {v : Verbosity}

theorem echoes_onSession {P : Session δ → Prop} {x y : Act (Session δ) α}
    (h : Act.Echoes v P (Session.debugging true) x y) :
    Act.Echoes v (fun w => P w.session) (debugging true) (onSession x : Act (Workspace δ τ) α)
      (onSession y) := by
  intro w hw
  obtain ⟨houtcome, hstate, hkept⟩ := h w.session hw
  exact ⟨houtcome, congrArg (fun s => ({ w with session := s } : Workspace δ τ)) hstate, hkept⟩

variable [Device δ]

theorem perform_ofOutcome (x : Outcome α) :
    (Program.perform (Dialogue.ofOutcome x) : Act (Workspace δ τ) α) = Act.ofOutcome x := by
  cases x <;> rfl

theorem perform_tallied (v : Verbosity) (q : Request τ) :
    ((q.tallied v).perform : Act (Workspace δ τ) q.Answer) =
      Act.ofOutcome (v.computed q.tally) >>= fun _ => answer q >>= fun a => pure (q.shown a) := by
  unfold Request.tallied
  simp only [Program.perform_bind, perform_ofOutcome, Program.perform_request]
  rfl

theorem perform_counted (v : Verbosity) (q : Request τ) :
    ((q.counted v).perform : Act (Workspace δ τ) q.Answer) =
      Act.ofOutcome (v.computed q.tally) >>= fun _ => answer q >>= fun a =>
        Act.get >>= fun w => Act.ofOutcome (v.computed (q.audit w.session.tracked)) >>= fun _ =>
          pure (q.shown a) := by
  unfold Request.counted Program.inspect
  simp only [Program.perform_bind, perform_ofOutcome, Program.perform_request]
  rfl

/-- How a request ends that counts threads only. -/
theorem tallied_apply (v : Verbosity) (q : Request τ) (w : Workspace δ τ)
    (htally : v.computed q.tally = .ok ()) :
    ((q.tallied v).perform v w).outcome = q.shown <$> (answer q v w).outcome ∧
      ((q.tallied v).perform v w).state = (answer q v w).state := by
  rw [perform_tallied, htally, Act.bind_of_eq rfl, Step.after_nil]
  cases h : (answer q v w).outcome with
  | ok a => rw [Act.bind_of_ok h]; exact ⟨rfl, rfl⟩
  | error e => rw [Act.bind_of_error h]; exact ⟨rfl, rfl⟩
  | panic p => rw [Act.bind_of_panic h]; exact ⟨rfl, rfl⟩

/-- How a request ends that counts bytes too. -/
theorem counted_apply (v : Verbosity) (q : Request τ) (w : Workspace δ τ)
    (htally : v.computed q.tally = .ok ()) :
    ((q.counted v).perform v w).outcome = ((answer q v w).outcome >>= fun a =>
        v.computed (q.audit (answer q v w).state.session.tracked) >>= fun _ => .ok (q.shown a)) ∧
      ((q.counted v).perform v w).state = (answer q v w).state := by
  rw [perform_counted, htally, Act.bind_of_eq rfl, Step.after_nil]
  cases h : (answer q v w).outcome with
  | ok a =>
      rw [Act.bind_of_ok h, Step.after_outcome, Step.after_state, Act.bind_of_eq (Act.get_apply ..),
        Step.after_nil, Outcome.ok_bind]
      cases v.computed (q.audit (answer q v w).state.session.tracked) <;> exact ⟨rfl, rfl⟩
  | error e =>
      rw [Act.bind_of_error h]
      exact ⟨rfl, rfl⟩
  | panic p =>
      rw [Act.bind_of_panic h]
      exact ⟨rfl, rfl⟩

/-- A request for which debugging has no work, and whose answer is shown as it is. -/
theorem echoes_of_plain {q : Request τ} (htally : v.computed q.tally = .ok ())
    (haudit : ∀ tracked, q.audit tracked = .ok ()) (hshown : ∀ a, q.shown a = a)
    (h : Act.Echoes v (fun _ => True) (debugging true) (answer q : Act (Workspace δ τ) _)
      (answer q)) :
    Act.Echoes v (fun _ => True) (debugging true)
      ((q.counted v).perform : Act (Workspace δ τ) q.Answer) (answer q) := by
  intro w _
  obtain ⟨houtcome, hstate, -⟩ := h w trivial
  obtain ⟨hcounted, hleft⟩ := counted_apply v q w htally
  have hnone : v.computed (q.audit (answer q v w).state.session.tracked) = .ok () := by
    rw [haudit]
    exact ite_self _
  rw [hcounted, hleft, hnone]
  refine ⟨houtcome.trans ?_, hstate, trivial⟩
  simp only [Outcome.ok_bind, hshown]
  cases (answer q v w).outcome <;> rfl

/-- An allocation in a debugging session counts its bytes, if its event is kept. -/
theorem echoes_allocate (v : Verbosity) (size : Nat) :
    Act.Echoes v (fun _ => True) (debugging true)
      (((.allocate size : Request τ).counted v).perform : Act (Workspace δ τ) Address)
      (answer (.allocate size)) := by
  intro w _
  obtain ⟨hcounted, hleft⟩ := counted_apply v (.allocate size) w (ite_self _)
  obtain ⟨houtcome, hstate⟩ := Session.allocate_apply size v w.session
  obtain ⟨hloud, hkept⟩ := Session.allocate_apply size v (w.session.debugging true)
  have hclaim : Act.Lifts (Session.debugging true) (Session.claim size : Act (Session δ) Address)
      (Session.claim size) := Session.lifts_claim size true
  rw [hclaim.outcome] at hloud
  rw [hclaim.state] at hloud hkept
  have hanswer : (answer (.allocate size) v w).outcome =
      (Session.allocate size v w.session).outcome := rfl
  have hsession : (answer (.allocate size) v w).state.session =
      (Session.claim size v w.session).state := hstate
  -- both sessions make the same claim, and differ only in the event behind it
  refine ⟨hloud.trans ?_, ?_, trivial⟩
  · rw [hcounted, hanswer, houtcome, hsession]
    cases (Session.claim size v w.session).outcome with
    | ok address => exact Session.announce_debugging size address v _
    | error e => rfl
    | panic p => rfl
  · rw [hleft]
    refine (congrArg (fun s => ({ w with session := s } : Workspace δ τ)) hkept).trans ?_
    exact congrArg (fun s => ({ w with session := s.debugging true } : Workspace δ τ)) hstate.symm

/-- A debugging session whose events are kept does not grant what it cannot count. -/
theorem answer_of_uncounted {q : Request τ} (hkept : v.admits .info = true) (h : q.tally ≠ .ok ())
    (w : Workspace δ τ) :
    answer q v (w.debugging true) = ⟨.panic .mulOverflow, w.debugging true, []⟩ := by
  cases q with
  | launch kernel geometry args =>
      rcases geometry.totalThreads_cases with ⟨n, hcount⟩ | hcount
      · exact absurd (by simp [Request.tally, hcount]) h
      · have hpanic := Session.launch_of_uncounted (s := w.session.debugging true) rfl hkept hcount
          kernel args
        change onSession (Session.launch kernel geometry args) v (w.debugging true) = _
        unfold onSession Act.onPart
        simp only [debugging, hpanic]
  | _ => exact absurd rfl h

theorem echoes_launch (v : Verbosity) (kernel : String) (geometry : Geometry) (args : List Arg) :
    Act.Echoes v (fun _ => True) (debugging true)
      (((.launch kernel geometry args : Request τ).counted v).perform : Act (Workspace δ τ) Unit)
      (answer (.launch kernel geometry args)) := by
  let q : Request τ := .launch kernel geometry args
  -- either both sessions pass the launch on, or the count stops both of them
  by_cases htally : v.computed q.tally = .ok ()
  · refine echoes_of_plain htally (fun _ => rfl) (fun _ => rfl)
      (echoes_onSession (P := fun _ => True) ?_)
    refine Session.echoes_launch (fun hkept => ?_) kernel args
    rcases geometry.totalThreads_cases with hcount | hcount
    · exact hcount
    · simp [Verbosity.computed, hkept, q, Request.tally, hcount] at htally
  · have hkept : v.admits .info = true := by
      by_contra hdropped
      exact htally (if_neg hdropped)
    have huncounted : q.tally ≠ .ok () := fun h => htally (by rw [h]; exact ite_self _)
    have hpanic : q.tally = .panic .mulOverflow := by
      rcases geometry.totalThreads_cases with ⟨n, hcount⟩ | hcount
      · exact absurd (by simp [q, Request.tally, hcount]) huncounted
      · simp [q, Request.tally, hcount]
    intro w _
    rw [answer_of_uncounted hkept huncounted, perform_counted, Verbosity.computed, if_pos hkept,
      hpanic]
    exact ⟨rfl, rfl, trivial⟩

/-- **A request in a debugging session** is the counted request in any session.  One case for each
thing that a program may ask for. -/
theorem echoes_counted (v : Verbosity) (q : Request τ) :
    Act.Echoes v (fun _ => True) (debugging true)
      ((q.counted v).perform : Act (Workspace δ τ) q.Answer) (answer q) := by
  have hdone : v.computed (.ok ()) = .ok () := ite_self _
  have hsession : ∀ {α : Type} {x : Act (Session δ) α},
      Act.Lifts (Session.debugging true) x x →
      Act.Echoes v (fun _ => True) (debugging true) (onSession x : Act (Workspace δ τ) α)
        (onSession x) :=
    fun h => echoes_onSession (P := fun _ => True) (h.echoes fun _ _ => trivial)
  cases q with
  | allocate size => exact echoes_allocate v size
  | store address bytes =>
      exact echoes_of_plain hdone (fun _ => rfl) (fun _ => rfl)
        (hsession (Session.lifts_onDevice (Device.view_id.copyToDevice _ _)))
  | fetch address size =>
      exact echoes_of_plain hdone (fun _ => rfl) (fun _ => rfl)
        (hsession (Session.lifts_fetch Device.view_id address size))
  | free address =>
      exact echoes_of_plain hdone (fun _ => rfl) (fun _ => rfl)
        (hsession (Session.lifts_free Device.view_id address))
  | launch kernel geometry args => exact echoes_launch v kernel geometry args
  | synchronize =>
      exact echoes_of_plain hdone (fun _ => rfl) (fun _ => rfl)
        (hsession (Session.lifts_onDevice Device.view_id.synchronize))
  | inspect =>
      intro w _
      obtain ⟨houtcome, hstate⟩ := counted_apply v .inspect w hdone
      rw [houtcome, hstate]
      refine ⟨?_, rfl, trivial⟩
      rw [show (Request.inspect : Request τ).audit = fun _ => .ok () from rfl, hdone]
      rfl
  | note level message fields =>
      exact echoes_of_plain hdone (fun _ => rfl) (fun _ => rfl) fun w _ => ⟨rfl, rfl, trivial⟩
  | load => exact echoes_of_plain hdone (fun _ => rfl) (fun _ => rfl) fun w _ => ⟨rfl, rfl, trivial⟩
  | save data =>
      exact echoes_of_plain hdone (fun _ => rfl) (fun _ => rfl) fun w _ => ⟨rfl, rfl, trivial⟩

/-- A property of workspaces that requests keep, and with which bytes can be counted. -/
structure Countable (v : Verbosity) (P : Workspace δ τ → Prop) : Prop where
  kept : ∀ q w, P w → P (answer q v w).state
  counted : ∀ q w a, P w → (answer q v w).outcome = .ok a →
    v.computed (q.audit (answer q v w).state.session.tracked) = .ok ()

/-- **Where bytes can be counted, debugging only counts threads.** -/
theorem echoes_tallied {P : Workspace δ τ → Prop} (h : Countable v P) (q : Request τ) :
    Act.Echoes v P (debugging true) ((q.tallied v).perform : Act (Workspace δ τ) q.Answer)
      (answer q) := by
  intro w hw
  obtain ⟨houtcome, hstate, -⟩ := echoes_counted v q w trivial
  -- with its threads counted, the request is left with the count of its bytes, which succeeds
  by_cases htally : v.computed q.tally = .ok ()
  · obtain ⟨hcounted, hleft⟩ := counted_apply v q w htally
    obtain ⟨htallied, hleft'⟩ := tallied_apply v q w htally
    rw [houtcome, hstate, hcounted, hleft, htallied, hleft']
    refine ⟨?_, rfl, h.kept q w hw⟩
    cases hanswer : (answer q v w).outcome with
    | ok a =>
        rw [Outcome.ok_bind, h.counted q w a hw hanswer]
        rfl
    | error e => rfl
    | panic p => rfl
  · rw [houtcome, hstate, perform_counted, perform_tallied]
    cases hstop : v.computed q.tally with
    | ok u => exact absurd hstop htally
    | error e => exact ⟨rfl, rfl, hw⟩
    | panic p => exact ⟨rfl, rfl, hw⟩

/-- Where both levels are kept, a quiet session counts its bytes too. -/
theorem countable_of_kept (h : v.admits .info = true → v.admits .debug = true) :
    Countable v fun _ : Workspace δ τ => True where
  kept _ _ _ := trivial
  counted q w a _ hanswer := by
    cases q with
    | allocate size => exact Session.audit_of_allocated h hanswer
    | _ => exact ite_self _

/-- What a session owns on an emulated device can be counted. -/
theorem countable_held (v : Verbosity) :
    Countable v fun w : Workspace Emulated τ => w.session.Held where
  kept q _ h := h.turn (turn_answer q v h)
  counted q w _ h _ := by
    cases q with
    | allocate size =>
        have hheld := h.turn (turn_answer (.allocate size) v h)
        have hle := Word.total_le_of_sublist (hheld.sublist.map Allocation.size)
        have hsum := Word.sum_eq_ok_iff.2 ⟨Nat.lt_of_le_of_lt hle hheld.ordered.total_lt, rfl⟩
        have haudit := congrArg (fun x : Outcome Nat => x >>= fun _ => Outcome.ok ()) hsum
        exact (congrArg v.computed haudit).trans (ite_self _)
    | _ => exact ite_self _

end Workspace

namespace Program

variable {τ α : Type} {v : Verbosity}

/-- A program whose launches can all be counted, and that does the same whether it sees the flag or
not. -/
def Indifferent (v : Verbosity) : Program τ α → Prop
  | .done _ => True
  | .fail _ => True
  | .panic _ => True
  | .ask q next => v.computed q.tally = .ok () ∧
      (∀ a, next (.ok (q.shown a)) = next (.ok a)) ∧ ∀ r, Indifferent v (next r)

/-- A program in a debugging session does what it does in a quiet session with its requests
replaced, if that is so for every request. -/
theorem echoes_perform {δ : Type} [Device δ] {P : Workspace δ τ → Prop}
    {f : (q : Request τ) → Program τ q.Answer}
    (hf : ∀ q, Act.Echoes v P (Workspace.debugging true) (f q).perform (Workspace.answer q))
    (p : Program τ α) :
    Act.Echoes v P (Workspace.debugging true) (Program.perform (p.through f)) p.perform := by
  unfold perform
  rw [Dialogue.run_through]
  exact Dialogue.run_compatible (Act.compatible_echoes v P _) hf p

/-- Counting threads changes nothing for an indifferent program. -/
theorem through_of_indifferent {p : Program τ α} (h : p.Indifferent v) :
    p.through (Request.tallied v) = p := by
  induction p with
  | done a => rfl
  | fail e => rfl
  | panic c => rfl
  | ask q next ih =>
      obtain ⟨htally, hshown, hnext⟩ := h
      have htallied : q.tallied v = Dialogue.request q >>= fun a => pure (q.shown a) := by
        rw [Request.tallied, htally]
        rfl
      unfold Dialogue.through
      rw [htallied]
      -- the answer may show the flag, which the program does not look at
      refine congrArg (Dialogue.ask q) (funext fun r => ?_)
      cases r with
      | ok a => exact (ih _ (hnext _)).trans (hshown a)
      | error e => exact ih _ (hnext _)

end Program

/-! ### Runs -/

namespace Job

variable {τ ε σ ρ : Type} {v : Verbosity}

/-- A job with a program in the place of each request. -/
def through (f : (q : Request τ) → Program τ q.Answer) (job : Job τ ε σ ρ) : Job τ ε σ ρ where
  prepare env := (job.prepare env).through f
  launch staged := (job.launch staged).through f
  copyBack staged := (job.copyBack staged).through f

/-- A job that does itself what debugging adds. -/
def counted (v : Verbosity) (job : Job τ ε σ ρ) : Job τ ε σ ρ :=
  job.through (Request.counted v)

/-- A job of indifferent programs. -/
structure Indifferent (v : Verbosity) (job : Job τ ε σ ρ) : Prop where
  prepare : ∀ env, (job.prepare env).Indifferent v
  launch : ∀ staged, (job.launch staged).Indifferent v
  copyBack : ∀ staged, (job.copyBack staged).Indifferent v

theorem through_of_indifferent {job : Job τ ε σ ρ} (h : job.Indifferent v) :
    job.through (Request.tallied v) = job := by
  unfold through
  simp only [Program.through_of_indifferent (h.prepare _),
    Program.through_of_indifferent (h.launch _), Program.through_of_indifferent (h.copyBack _)]

end Job

namespace Run

variable {δ τ ε σ ρ α : Type} [Device δ] {v : Verbosity} {P : Workspace δ τ → Prop}
  {P' : δ × τ → Prop}

/-- The property `P` of open sessions comes from the property `P'` of a device and the host data,
and leaves it behind; selecting and resetting the device, and the end of a session, keep them. -/
structure Lasting (v : Verbosity) (P : Workspace δ τ → Prop) (P' : δ × τ → Prop) : Prop where
  select : ∀ ordinal s, P' s → P' (onDevice (Device.select ordinal) v s).state
  reset : ∀ s, P' s → P' (onDevice Device.reset v s).state
  opened : ∀ config s, P' s → P ⟨Session.start s.1 config, s.2⟩
  ended : ∀ w, P w → P (Workspace.onSession Session.teardown v w).state
  closed : ∀ w, P w → P' ((Session.abandon v w.session).state.device, w.host)

theorem lasting_true (v : Verbosity) :
    Lasting v (fun _ : Workspace δ τ => True) fun _ : δ × τ => True :=
  ⟨fun _ _ _ => trivial, fun _ _ => trivial, fun _ _ _ => trivial, fun _ _ => trivial,
    fun _ _ => trivial⟩

/-- Sessions on a device with its buffers in order own what is live. -/
theorem lasting_held (v : Verbosity) :
    Lasting v (fun w : Workspace Emulated τ => w.session.Held)
      fun s : Emulated × τ => s.1.Ordered where
  select ordinal s h := (Emulated.Leads.one s.1 v (.select ordinal)).ordered h
  reset s h := (Emulated.Leads.one s.1 v .reset).ordered h
  opened _ _ h := ⟨h, List.nil_sublist _⟩
  ended w h := by
    refine ⟨(leads_teardown v w.session).ordered h.ordered, ?_⟩
    change (Session.teardown v w.session).state.tracked.Sublist _
    rw [teardown_tracked]
    exact List.nil_sublist _
  closed w h := by
    change (Session.abandon v w.session).state.device.Ordered
    rw [abandon_state]
    exact (leads_teardown v w.session).ordered h.ordered

/-- A debugging session is opened and closed as a quiet one is. -/
theorem echoes_scope (hlasting : Lasting v P P') {x y : Act (Workspace δ τ) α}
    (h : Act.Echoes v P (Workspace.debugging true) x y) (config : Config) :
    Act.Echoes v P' id (Workspace.scope (config.debugging false) x)
      (Workspace.scope (config.debugging true) y) := by
  intro s hs
  have hstart : (⟨Session.start s.1 (config.debugging true), s.2⟩ : Workspace δ τ) =
      Workspace.debugging true ⟨Session.start s.1 (config.debugging false), s.2⟩ := rfl
  have hsession : ∀ w : Workspace δ τ,
      (w.debugging true).session = w.session.adapt id (Config.debugging true) := fun _ => rfl
  have habandon : Act.Lifts (Session.adapt id (Config.debugging true))
      (Session.abandon : Act (Session δ) Unit) Session.abandon :=
    Session.lifts_abandon Device.view_id
  obtain ⟨houtcome, hstate, hkept⟩ :=
    h ⟨Session.start s.1 (config.debugging false), s.2⟩ (hlasting.opened _ s hs)
  refine ⟨?_, ?_, hlasting.closed _ hkept⟩
  · simp only [Workspace.scope, id_eq, hstart, houtcome, hstate, hsession, habandon.outcome]
  · simp only [Workspace.scope, id_eq, hstart, hstate, hsession, habandon.state]
    rfl

/-- **A debugging run is a quiet run of another job**: of the job with a program in the place of
each request that does what a debugging session does. -/
theorem echoes_run (hlasting : Lasting v P P') {f : (q : Request τ) → Program τ q.Answer}
    (hf : ∀ q, Act.Echoes v P (Workspace.debugging true) (f q).perform (Workspace.answer q))
    (config : Config) (watch : Stopwatch) (job : Job τ ε σ ρ) (env : ε) :
    Act.Echoes v P' id
      (run (config.debugging false) watch (job.through f) env : Act (δ × τ) (Report ρ))
      (run (config.debugging true) watch job env) := by
  have hbody : Act.Echoes v P' id
      (body (config.debugging false) watch (job.through f) env : Act (δ × τ) (Report ρ))
      (body (config.debugging true) watch job env) := by
    have hordinal : (config.debugging false).deviceOrdinal =
        (config.debugging true).deviceOrdinal := rfl
    refine body_compatible (Act.compatible_echoes v P' id) hordinal ?_ ?_ fun report stage => ?_
    · exact fun ordinal s hs => ⟨rfl, rfl, hlasting.select ordinal s hs⟩
    · exact fun s hs => ⟨rfl, rfl, hlasting.reset s hs⟩
    · -- inside the session the view shows the workspace with the flag set
      have hR := Act.compatible_echoes v P (Workspace.debugging true)
      refine echoes_scope hlasting (session_compatible hR ?_ ?_) config
      · exact phases_compatible hR (fun env => Program.echoes_perform hf (job.prepare env))
          (fun staged => Program.echoes_perform hf (job.launch staged))
          (fun staged => Program.echoes_perform hf (job.copyBack staged)) watch env report stage
      · have hlifts : Act.Lifts (Session.debugging true)
            (Session.teardown : Act (Session δ) Teardown) Session.teardown :=
          Session.lifts_teardown Device.view_id
        intro w hw
        obtain ⟨houtcome, hstate, -⟩ := Workspace.echoes_onSession (τ := τ) (v := v)
          (P := fun _ => True) (hlifts.echoes fun _ _ => trivial) w trivial
        exact ⟨houtcome, hstate, hlasting.ended w hw⟩
  intro s hs
  exact hbody.within _ s hs

/-- Where bytes can be counted, a run of an indifferent job does not depend on the flag. -/
theorem debugging_of_indifferent (hlasting : Lasting v P P') (hcountable : Workspace.Countable v P)
    {job : Job τ ε σ ρ} (hjob : job.Indifferent v) (config : Config) (watch : Stopwatch) (env : ε)
    {s : δ × τ} (hs : P' s) :
    (run (config.debugging true) watch job env v s).outcome =
        (run (config.debugging false) watch job env v s).outcome ∧
      (run (config.debugging true) watch job env v s).state =
        (run (config.debugging false) watch job env v s).state := by
  have hrun := echoes_run hlasting (Workspace.echoes_tallied hcountable) config watch job env s hs
  rw [Job.through_of_indifferent hjob] at hrun
  exact ⟨hrun.1, hrun.2.1⟩

/-- **Debugging only counts.**  A debugging run ends as a quiet run of the job that counts its
threads and its bytes, and it leaves the same device and the same host data.  It ends as a quiet run
of the job itself, if the job is indifferent and quiet sessions count bytes too, or the device is an
emulated one.

A request in a debugging session is granted, refused or ended in a panic as it is in a quiet
session, which is left in the same state but for the flag, if important events are not kept.  If
they are, then there are two exceptions.  After an allocation the bytes are counted, and the
debugging session panics if there are too many.  A launch of more threads than a machine word can
count does not reach the device of a debugging session, which panics, where a quiet session passes
the launch on. -/
theorem debugging_only_counts (config : Config) (watch : Stopwatch) (job : Job τ ε σ ρ)
    (env : ε) (v : Verbosity) (s : δ × τ) :
    (let loud := run (config.debugging true) watch job env v s
      let quiet := fun job : Job τ ε σ ρ => run (config.debugging false) watch job env v s
      (loud.outcome = (quiet (job.counted v)).outcome ∧
        loud.state = (quiet (job.counted v)).state) ∧
      (job.Indifferent v → (v.admits .info = true → v.admits .debug = true) →
        loud.outcome = (quiet job).outcome ∧ loud.state = (quiet job).state)) ∧
      (job.Indifferent v → ∀ (d : Emulated) (t : τ), d.Reachable →
        let loud := run (config.debugging true) watch job env v (d, t)
        let quiet := run (config.debugging false) watch job env v (d, t)
        loud.outcome = quiet.outcome ∧ loud.state = quiet.state) ∧
      (∀ (q : Request τ) (w : Workspace δ τ),
        let loud := Workspace.answer q v (w.debugging true)
        let quiet := Workspace.answer q v (w.debugging false)
        (v.admits .info = false →
          loud.outcome = q.shown <$> quiet.outcome ∧ loud.state = quiet.state.debugging true) ∧
        (v.admits .info = true → q.tally = .ok () →
          loud.outcome = (quiet.outcome >>= fun a =>
            q.audit quiet.state.session.tracked >>= fun _ => .ok (q.shown a)) ∧
          loud.state = quiet.state.debugging true) ∧
        (v.admits .info = true → q.tally ≠ .ok () →
          loud = ⟨.panic .mulOverflow, w.debugging true, []⟩)) ∧
      ∀ (kernel : String) (geometry : Geometry) (args : List Arg) (w : Workspace δ τ),
        let q : Request τ := .launch kernel geometry args
        let quiet := Workspace.answer q v (w.debugging false)
        (q.tally = .ok () ↔ geometry.grid.count < Word.bound ∧
          geometry.block.count < Word.bound ∧ geometry.count < Word.bound) ∧
        quiet.outcome = (Device.launch kernel geometry args v w.session.device).outcome := by
  refine ⟨⟨?_, fun hjob hkept => ?_⟩, fun hjob d t hd => ?_, fun q w => ?_, ?_⟩
  · obtain ⟨houtcome, hstate, -⟩ := echoes_run (lasting_true v) (Workspace.echoes_counted v)
      config watch job env s trivial
    exact ⟨houtcome, hstate⟩
  · exact debugging_of_indifferent (lasting_true v) (Workspace.countable_of_kept hkept) hjob
      config watch env trivial
  · exact debugging_of_indifferent (lasting_held v) (Workspace.countable_held v) hjob config watch
      env hd.ordered
  · obtain ⟨houtcome, hstate, -⟩ := Workspace.echoes_counted v q (w.debugging false) trivial
    refine ⟨fun hdropped => ?_, fun hkept htally => ?_, fun hkept htally => ?_⟩
    · have hnone : ∀ x, v.computed x = .ok () := fun x => if_neg (Bool.eq_false_iff.1 hdropped)
      obtain ⟨hcounted, hleft⟩ := Workspace.counted_apply v q (w.debugging false) (hnone _)
      refine ⟨houtcome.trans (hcounted.trans ?_), hstate.trans (congrArg _ hleft)⟩
      rw [hnone]
      cases (Workspace.answer q v (w.debugging false)).outcome <;> rfl
    · have hall : ∀ x, v.computed x = x := fun x => if_pos hkept
      obtain ⟨hcounted, hleft⟩ :=
        Workspace.counted_apply v q (w.debugging false) ((hall _).trans htally)
      refine ⟨houtcome.trans (hcounted.trans ?_), hstate.trans (congrArg _ hleft)⟩
      rw [hall]
    · exact Workspace.answer_of_uncounted hkept htally w
  · intro kernel geometry args w
    exact ⟨Request.tally_launch_eq_ok_iff, rfl⟩

/-- A job that allocates memory, launches a kernel and looks at its session. -/
def launching (geometry : Geometry) : Job Unit Unit Unit Nat where
  prepare _ := do
    let _ ← Program.allocate 16
    pure ()
  launch _ := Program.launch "noop" geometry []
  copyBack _ := do
    let view ← Program.inspect
    pure [view.tracked.length]

/-- A device with a kernel that does nothing. -/
def launchPad : Emulated :=
  Emulated.new.register "noop" fun _ _ => pure ()

/-- A launch of almost as many threads as a machine word can count. -/
def vast : Geometry :=
  ⟨⟨65536, 65536, 65535⟩, ⟨65535, 1, 1⟩⟩

/-- A launch of more threads than a machine word can count. -/
def oversized : Geometry :=
  ⟨⟨4294967295, 4294967295, 2⟩, ⟨1, 1, 1⟩⟩

/-- A session that owns almost as many bytes as a machine word can count. -/
def laden : Workspace Emulated Unit :=
  ⟨{ Session.start { launchPad with selected := some 0, contextReady := true } {} with
      tracked := [⟨Address.ofNat 256, Word.bound - 1⟩] }, ()⟩

theorem indifferent_launching_vast : (launching vast).Indifferent ⟨some .info⟩ where
  prepare _ := ⟨rfl, fun _ => rfl, fun r => by cases r <;> trivial⟩
  launch _ := ⟨by decide, fun _ => rfl, fun r => by cases r <;> trivial⟩
  copyBack _ := ⟨rfl, fun _ => rfl, fun r => by cases r <;> trivial⟩

theorem reachable_launchPad : launchPad.Reachable :=
  (Emulated.Reachable.fresh 1 none {}).step .off (.register "noop" fun _ _ => pure ())

/-- Debugging makes no difference to a vast launch.  It does to an oversized one, and to an
allocation with which a session owns too many bytes, if important events are kept. -/
theorem debugging_a_vast_launch :
    let v : Verbosity := ⟨some .info⟩
    let loud := run (({} : Config).debugging true) (fun _ => 0) (launching vast) () v
      (launchPad, ())
    let quiet := run (({} : Config).debugging false) (fun _ => 0) (launching vast) () v
      (launchPad, ())
    let q : Request Unit := .launch "noop" oversized []
    let q' : Request Unit := .allocate 16
    (launching vast).Indifferent v ∧ launchPad.Reachable ∧
      loud.outcome = quiet.outcome ∧ loud.state = quiet.state ∧
      Report.output <$> loud.outcome = .ok (some [1]) ∧ loud.state.1.stats.launches = 1 ∧
      (.launch "noop" vast [] : Request Unit).tally = .ok () ∧ q.tally ≠ .ok () ∧
      (Workspace.answer q v (laden.debugging true)).outcome = .panic .mulOverflow ∧
      (Workspace.answer q .off (laden.debugging true)).outcome = .ok () ∧
      (Workspace.answer q' v (laden.debugging true)).outcome = .panic .addOverflow ∧
      (Workspace.answer q' v (laden.debugging false)).outcome =
        .ok (Address.ofNat Memory.base) := by
  intro v loud quiet q q'
  obtain ⟨-, hsame, hrequest, -⟩ := debugging_only_counts (δ := Emulated) {}
    (fun _ => 0) (launching vast) () v (launchPad, ())
  obtain ⟨houtcome, hstate⟩ := hsame indifferent_launching_vast launchPad () reachable_launchPad
  have hq : q.tally ≠ .ok () := by decide
  refine ⟨indifferent_launching_vast, reachable_launchPad, houtcome, hstate, by decide +kernel,
    by decide +kernel, by decide, hq, ?_, by decide +kernel, by decide +kernel,
    by decide +kernel⟩
  rw [(hrequest q laden).2.2 rfl hq]

/-- The flag decides how a run with an oversized launch ends, and whether its device hears of the
launch, if important events are kept. -/
theorem debugging_an_oversized_launch :
    let loud := fun v => run (({} : Config).debugging true) (fun _ => 0) (launching oversized) () v
      (launchPad, ())
    let quiet := fun v => run (({} : Config).debugging false) (fun _ => 0) (launching oversized) ()
      v (launchPad, ())
    (loud ⟨some .info⟩).outcome = .panic .mulOverflow ∧
      (loud ⟨some .info⟩).state.1.stats.launches = 0 ∧
      Report.output <$> (quiet ⟨some .info⟩).outcome = .ok (some [1]) ∧
      (quiet ⟨some .info⟩).state.1.stats.launches = 1 ∧
      (loud ⟨some .warn⟩).outcome = (quiet ⟨some .warn⟩).outcome := by
  decide +kernel

end Run

end Offload
