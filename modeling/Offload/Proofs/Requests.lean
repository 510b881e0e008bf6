/-
**Sequences of requests.**

A program that runs on a session is the sequence of its requests: it leaves the workspace that these
requests leave, one after the other, whether they are granted, refused or end in a panic.  So what
is shown of every sequence of requests holds for every program, and for a caller that goes on after
a panic.

A request makes at most one call to the device, and the release at the end of a session makes one
for each allocation.  Hence an emulated device is led by calls, and by nothing else, through every
program and through every run: its equipment stays what it was, and its buffers stay in order.

Main definitions:

* `Offload.Workspace.after`, `Offload.Workspace.grants` — the workspace that requests leave, and the
  allocations that they make;
* `Offload.Program.requests` — the requests of a program;
* `Offload.Emulated.Leads` — one device becomes another by calls.

Main results:

* `Offload.Program.perform_state` — **a program is the sequence of its requests**;
* `Offload.Session.allocate_apply`, `Offload.Session.claim_cases`, `Offload.Session.free_of_owned`,
  … — what each operation of a session does;
* `Offload.Workspace.leads_answer`, `Offload.Run.leads_run` — a request, and a run, lead the device
  by calls.
-/

import Offload.Proofs.Release
import Offload.Proofs.Report
import Offload.Proofs.Emulated.Buffers

set_option autoImplicit false

namespace Offload

/-! ### Sequences -/

namespace Workspace

variable {δ τ : Type} [Device δ]

/-- The workspace that requests leave, however each of them ends. -/
def after (v : Verbosity) : List (Request τ) → Workspace δ τ → Workspace δ τ
  | [], w => w
  | q :: qs, w => after v qs (answer q v w).state

/-- The allocation that a request makes, if it is one that succeeds. -/
def grant? (v : Verbosity) (w : Workspace δ τ) : Request τ → Option Allocation
  | .allocate size => Emulated.granted? size (answer (.allocate size) v w).outcome
  | _ => none

/-- The allocations that requests make, in order. -/
def grants (v : Verbosity) : List (Request τ) → Workspace δ τ → List Allocation
  | [], _ => []
  | q :: qs, w => (grant? v w q).toList ++ grants v qs (answer q v w).state

end Workspace

namespace Program

variable {δ τ α : Type} [Device δ]

/-- The requests of a program, in order. -/
def requests (p : Program τ α) (v : Verbosity) (w : Workspace δ τ) : List (Request τ) :=
  (p.trail Workspace.answer v w).map Prod.snd

/-- **A program is the sequence of its requests.** -/
theorem perform_state (p : Program τ α) (v : Verbosity) (w : Workspace δ τ) :
    (p.perform v w).state = Workspace.after v (p.requests v w) w := by
  induction p generalizing w with
  | done a => rfl
  | fail e => rfl
  | panic c => rfl
  | ask q next ih =>
      have hperform : Program.perform (.ask q next) v w =
          ((Workspace.answer q).attempt >>= fun r => Program.perform (next r)) v w := rfl
      rw [hperform]
      simp only [requests, Dialogue.trail, List.map_cons, Workspace.after]
      cases hanswer : (Workspace.answer q v w).outcome with
      | ok a =>
          rw [Act.bind_of_ok (Act.attempt_of_ok hanswer), Step.after_state, Act.attempt_state]
          exact ih (.ok a) _
      | error e =>
          rw [Act.bind_of_ok (Act.attempt_of_error hanswer), Step.after_state, Act.attempt_state]
          exact ih (.error e) _
      | panic c =>
          rw [Act.bind_of_panic (Act.attempt_of_panic hanswer), Act.attempt_state]
          rfl

/-- A request on its own ends as its answer does. -/
theorem perform_request (q : Request τ) :
    (Program.perform (Dialogue.request q) : Act (Workspace δ τ) q.Answer) =
      Workspace.answer q := by
  funext v w
  unfold Program.perform Dialogue.request
  rw [Dialogue.run]
  cases hanswer : Workspace.answer q v w with
  | mk outcome state log =>
      cases outcome with
      | ok a =>
          rw [Act.bind_of_ok (Act.attempt_of_ok (by rw [hanswer])), Act.attempt_state,
            Act.attempt_log, hanswer]
          simp [Dialogue.run, Step.after]
      | error e =>
          rw [Act.bind_of_ok (Act.attempt_of_error (by rw [hanswer])), Act.attempt_state,
            Act.attempt_log, hanswer]
          simp [Dialogue.run, Step.after]
      | panic c =>
          rw [Act.bind_of_panic (Act.attempt_of_panic (by rw [hanswer])), Act.attempt_state,
            Act.attempt_log, hanswer]

theorem perform_bind {β : Type} (p : Program τ α) (f : α → Program τ β) :
    (Program.perform (p >>= f) : Act (Workspace δ τ) β) =
      p.perform >>= fun a => (f a).perform :=
  Dialogue.run_bind ..

section Bind

variable {β : Type} {p : Program τ α} {f : α → Program τ β} {v : Verbosity} {w : Workspace δ τ}

/-- A sequence of two programs ends with a value iff both of them do. -/
theorem bind_eq_ok {b : β} :
    (Program.perform (p >>= f) v w).outcome = .ok b ↔
      ∃ a, (p.perform v w).outcome = .ok a ∧
        ((f a).perform v (p.perform v w).state).outcome = .ok b := by
  rw [perform_bind]
  exact Act.bind_eq_ok

theorem bind_outcome_of_ok {a : α} (h : (p.perform v w).outcome = .ok a) :
    (Program.perform (p >>= f) v w).outcome =
      ((f a).perform v (p.perform v w).state).outcome := by
  rw [perform_bind, Act.bind_of_ok h, Step.after_outcome]

theorem bind_state_of_ok {a : α} (h : (p.perform v w).outcome = .ok a) :
    (Program.perform (p >>= f) v w).state = ((f a).perform v (p.perform v w).state).state := by
  rw [perform_bind, Act.bind_of_ok h, Step.after_state]

/-- A sequence of two programs stops where the first one does, without a value, or ends as the
second one does. -/
theorem bind_ends {R : Outcome β → Workspace δ τ → Prop}
    (hstop : (∀ a, (p.perform v w).outcome ≠ .ok a) →
      ∀ x, (∀ b, x ≠ .ok b) → R x (p.perform v w).state)
    (hgo : ∀ a, (p.perform v w).outcome = .ok a →
      R ((f a).perform v (p.perform v w).state).outcome
        ((f a).perform v (p.perform v w).state).state) :
    R (Program.perform (p >>= f) v w).outcome (Program.perform (p >>= f) v w).state := by
  cases hp : (p.perform v w).outcome with
  | ok a =>
      rw [bind_outcome_of_ok hp, bind_state_of_ok hp]
      exact hgo a hp
  | error e =>
      rw [perform_bind, Act.bind_of_error hp]
      exact hstop (by simp [hp]) _ fun b h => nomatch h
  | panic c =>
      rw [perform_bind, Act.bind_of_panic hp]
      exact hstop (by simp [hp]) _ fun b h => nomatch h

end Bind

/-- An array is allocated by one request. -/
theorem allocSlice_eq_ok {α : Type} [Pod α] {length : Nat} {v : Verbosity} {w : Workspace δ τ}
    {s : Slice α} (h : ((allocSlice α length).perform v w).outcome = .ok s) :
    s.length = length ∧
      (Workspace.answer (.allocate (length * Pod.width α)) v w).outcome = .ok s.address ∧
      ((allocSlice α length).perform v w).state =
        (Workspace.answer (.allocate (length * Pod.width α)) v w).state := by
  unfold allocSlice at h ⊢
  split at h
  · rename_i hbound
    obtain ⟨address, haddress, hpure⟩ := bind_eq_ok.1 h
    cases hpure
    rw [if_pos hbound, bind_state_of_ok haddress]
    rw [allocate, perform_request] at haddress ⊢
    exact ⟨rfl, haddress, rfl⟩
  · cases h

end Program

/-! ### The operations of a session -/

namespace Session

variable {δ : Type}

/-- The event that an allocation ends with. -/
def announce (size : Nat) (address : Address) : Act (Session δ) Address := do
  let s ← Act.get
  Act.note s.eventLevel "device allocation" do
    let liveBytes ← s.allocatedBytes
    pure [.plain "ptr" address.text, .number "size_bytes" size,
      .number "live" s.tracked.length, .number "live_bytes" liveBytes]
  pure address

/-- The event is written, unless it is kept and the bytes that the session owns cannot be
counted. -/
theorem announce_outcome (size : Nat) (address : Address) (v : Verbosity) (s : Session δ) :
    (announce size address v s).outcome =
      if v.admits s.eventLevel then s.allocatedBytes >>= fun _ => .ok address
      else .ok address := by
  unfold announce
  rw [Act.bind_of_ok (rfl : (Act.get v s).outcome = .ok s), Step.after_outcome]
  cases hkept : v.admits s.eventLevel with
  | false =>
      rw [Act.bind_of_eq (Act.note_of_dropped hkept _ _ _)]
      rfl
  | true =>
      cases hsum : s.allocatedBytes with
      | ok n =>
          rw [Outcome.ok_bind, Outcome.pure_eq, Act.bind_of_ok (Act.note_ok_outcome ..)]
          rfl
      | error e => exact absurd hsum (Word.sum_ne_error _ _)
      | panic p =>
          rw [Act.bind_of_panic (by rw [Act.get_apply, Act.note_outcome_of_kept hkept]; rfl)]
          rfl

/-- An announcement passes its address on. -/
theorem announce_eq_ok {size : Nat} {address other : Address} {v : Verbosity} {s : Session δ}
    (h : (announce size address v s).outcome = .ok other) : address = other := by
  rw [announce_outcome] at h
  split at h
  · obtain ⟨_, -, hpure⟩ := Outcome.bind_eq_ok.1 h
    exact Outcome.ok.inj hpure
  · exact Outcome.ok.inj h

theorem announce_ne_error (size : Nat) (address : Address) (v : Verbosity) (s : Session δ)
    (e : Failure) : (announce size address v s).outcome ≠ .error e := by
  rw [announce_outcome]
  intro h
  split at h
  · rcases Outcome.bind_eq_error.1 h with hsum | ⟨_, -, hpure⟩
    · exact Word.sum_ne_error _ _ hsum
    · cases hpure
  · cases h

theorem announce_state (size : Nat) (address : Address) (v : Verbosity) (s : Session δ) :
    (announce size address v s).state = s := by
  unfold announce
  rw [Act.bind_of_ok (rfl : (Act.get v s).outcome = .ok s), Step.after_state,
    Act.bind_state fun _ _ => rfl, Act.note_state]
  rfl

variable [Device δ] {v : Verbosity} {s : Session δ}

/-- An address that the session does not own is not passed on. -/
theorem free_of_unowned {address : Address} (h : s.owns address = false) (v : Verbosity) :
    free address v s = ⟨.error (.invalidHandle address), s, []⟩ := by
  have hfind : (s.tracked.find? fun a => a.address = address) = none := by
    simpa [owns] using h
  unfold free
  rw [Act.bind_of_ok (rfl : (Act.get v s).outcome = .ok s)]
  simp only [hfind]
  rfl

/-- An address of the session leaves its list, whatever the device says. -/
theorem free_of_owned {address : Address} (h : s.owns address = true) (v : Verbosity) :
    (free address v s).outcome = (Device.free address v s.device).outcome ∧
      (free address v s).state = { s with
        device := (Device.free address v s.device).state
        tracked := s.tracked.eraseP fun a => a.address = address
        earlyFrees := s.earlyFrees + 1 } := by
  unfold free
  rw [Act.bind_of_ok (rfl : (Act.get v s).outcome = .ok s)]
  cases hfind : s.tracked.find? fun a => a.address = address with
  | none =>
      have hunowned : s.owns address = false := by
        simpa [owns] using hfind
      rw [hunowned] at h
      cases h
  | some a => exact ⟨rfl, rfl⟩

/-- A launch reaches the device, or it stops while its event is recorded. -/
theorem launch_state (kernel : String) (geometry : Geometry) (args : List Arg) (v : Verbosity)
    (s : Session δ) :
    (launch kernel geometry args v s).state = s ∨
      (launch kernel geometry args v s).state =
        { s with device := (Device.launch kernel geometry args v s.device).state } := by
  unfold launch
  rw [Act.bind_of_ok (rfl : (Act.get v s).outcome = .ok s), Step.after_state, Act.bind_apply]
  split
  · refine Or.inr ?_
    rw [Step.after_state, Act.note_state]
    rfl
  · exact Or.inl (Act.note_state ..)
  · exact Or.inl (Act.note_state ..)

/-- A launch reaches the device, unless a debugging session whose events are kept cannot count its
threads. -/
theorem launch_of_counted {geometry : Geometry}
    (h : s.config.debug = true → v.admits .info = true → ∃ n, geometry.totalThreads = .ok n)
    (kernel : String) (args : List Arg) :
    (launch kernel geometry args v s).outcome =
        (Device.launch kernel geometry args v s.device).outcome ∧
      (launch kernel geometry args v s).state =
        { s with device := (Device.launch kernel geometry args v s.device).state } := by
  unfold launch
  rw [Act.bind_of_ok rfl, Step.after_outcome, Step.after_state]
  simp only [Act.get_apply]
  rw [Act.bind_of_ok (a := ()), Act.note_state]
  · exact ⟨rfl, rfl⟩
  · rw [Act.note_eq_ok]
    intro hkept
    split
    · rename_i hdebug
      have hlevel : s.eventLevel = .info := if_pos hdebug
      obtain ⟨n, hn⟩ := h hdebug (hlevel ▸ hkept)
      rw [hn]
      exact ⟨_, rfl⟩
    · exact ⟨_, rfl⟩

/-- A debugging session whose events are kept does not get past threads that it cannot count. -/
theorem launch_of_uncounted {geometry : Geometry} {p : Panic} (hdebug : s.config.debug = true)
    (hkept : v.admits .info = true) (h : geometry.totalThreads = .panic p) (kernel : String)
    (args : List Arg) : launch kernel geometry args v s = ⟨.panic p, s, []⟩ := by
  have hlevel : s.eventLevel = .info := if_pos hdebug
  unfold launch
  rw [Act.bind_of_ok rfl]
  simp only [Act.get_apply, if_pos hdebug, h, Outcome.panic_bind, hlevel]
  rw [Act.bind_of_panic (p := p)]
  · rfl
  · rw [Act.note_outcome_of_kept hkept]
    rfl

/-- Reading changes nothing. -/
theorem fetch_state (address : Address) (size : Nat) (v : Verbosity) (s : Session Emulated) :
    (fetch address size v s).state = s := by
  unfold fetch
  split
  · exact congrArg (fun d => { s with device := d })
      (Emulated.read_state address size v s.device)
  · rfl

/-- An allocation without its event. -/
def claim (size : Nat) : Act (Session δ) Address := do
  if size = 0 then Act.fail (.invalidInput .zeroSized)
  else do
    ensureFits size
    let address ← onDevice (Device.allocate size)
    record ⟨address, size⟩
    pure address

theorem allocate_eq_claim (size : Nat) :
    (allocate size : Act (Session δ) Address) = claim size >>= announce size := by
  unfold allocate claim
  split
  · rfl
  · simp only [Act.bind_assoc]
    rfl

/-- **An allocation is a claim that is announced.**  The event may panic, but it changes nothing. -/
theorem allocate_apply (size : Nat) (v : Verbosity) (s : Session δ) :
    (allocate size v s).outcome = ((claim size v s).outcome >>= fun address =>
        (announce size address v (claim size v s).state).outcome) ∧
      (allocate size v s).state = (claim size v s).state := by
  rw [allocate_eq_claim]
  cases h : (claim size v s).outcome with
  | ok address =>
      rw [Act.bind_of_ok h]
      exact ⟨rfl, announce_state size address v _⟩
  | error e =>
      rw [Act.bind_of_error h]
      exact ⟨rfl, rfl⟩
  | panic p =>
      rw [Act.bind_of_panic h]
      exact ⟨rfl, rfl⟩

/-- A claim that the device grants is recorded, or it is a panic if the address is not new. -/
theorem claim_of_reply {size : Nat} {address : Address} (hsize : size ≠ 0)
    (hfits : (ensureFits size v s).outcome = .ok ())
    (hreply : (Device.allocate size v s.device).outcome = .ok address) :
    (s.owns address = true ∧ (claim size v s).outcome = .panic (.recordedTwice address) ∧
        (claim size v s).state =
          { s with device := (Device.allocate size v s.device).state }) ∨
      (s.owns address = false ∧ (claim size v s).outcome = .ok address ∧
        (claim size v s).state = { s with
          device := (Device.allocate size v s.device).state
          tracked := s.tracked ++ [⟨address, size⟩] }) := by
  have hcall : (onDevice (Device.allocate size) v s).outcome = .ok address := hreply
  have hstate : (onDevice (Device.allocate size) v s).state =
      { s with device := (Device.allocate size v s.device).state } := rfl
  unfold claim
  rw [if_neg hsize, Act.bind_of_ok hfits, ensureFits_state, Act.bind_of_ok hcall, hstate]
  simp only [Step.after_outcome, Step.after_state]
  cases howns : s.owns address with
  | true =>
      have hrecord := record_of_owned (a := ⟨address, size⟩)
        (s := { s with device := (Device.allocate size v s.device).state }) howns v
      rw [Act.bind_of_panic (by rw [hrecord]), hrecord]
      exact .inl ⟨rfl, rfl, rfl⟩
  | false =>
      have hrecord := record_of_new (a := ⟨address, size⟩)
        (s := { s with device := (Device.allocate size v s.device).state }) howns v
      rw [Act.bind_of_ok (by rw [hrecord]), hrecord]
      exact .inr ⟨rfl, rfl, rfl⟩

/-- **What a claim can do**: stop before the device is asked, be refused by the device, or be
granted by it.  It fails as the check or the device does. -/
theorem claim_cases (size : Nat) (v : Verbosity) (s : Session δ) :
    (size = 0 ∧ (claim size v s).outcome = .error (.invalidInput .zeroSized) ∧
        (claim size v s).state = s) ∨
      (size ≠ 0 ∧ (∀ u, (ensureFits size v s).outcome ≠ .ok u) ∧
        (∀ a, (claim size v s).outcome ≠ .ok a) ∧
        (∀ e, (claim size v s).outcome = .error e → (ensureFits size v s).outcome = .error e) ∧
        (claim size v s).state = s) ∨
      (size ≠ 0 ∧ (ensureFits size v s).outcome = .ok () ∧
        (∀ a, (Device.allocate size v s.device).outcome ≠ .ok a) ∧
        (∀ a, (claim size v s).outcome ≠ .ok a) ∧
        (∀ e, (claim size v s).outcome = .error e →
          (Device.allocate size v s.device).outcome = .error e) ∧
        (claim size v s).state =
          { s with device := (Device.allocate size v s.device).state }) ∨
      (size ≠ 0 ∧ (ensureFits size v s).outcome = .ok () ∧
        ∃ address, (Device.allocate size v s.device).outcome = .ok address) := by
  by_cases hsize : size = 0
  · refine .inl ⟨hsize, ?_⟩
    unfold claim
    rw [if_pos hsize]
    exact ⟨rfl, rfl⟩
  refine .inr ?_
  have hstate := ensureFits_state size v s
  cases hfits : (ensureFits size v s).outcome with
  | error e =>
      refine .inl ⟨hsize, by rintro u ⟨⟩, ?_⟩
      unfold claim
      rw [if_neg hsize, Act.bind_of_error hfits, hstate]
      exact ⟨by rintro a ⟨⟩, by rintro e' ⟨⟩; rfl, rfl⟩
  | panic p =>
      refine .inl ⟨hsize, by rintro u ⟨⟩, ?_⟩
      unfold claim
      rw [if_neg hsize, Act.bind_of_panic hfits, hstate]
      exact ⟨by rintro a ⟨⟩, by rintro e ⟨⟩, rfl⟩
  | ok u =>
      refine .inr ?_
      cases hreply : (Device.allocate size v s.device).outcome with
      | ok address => exact .inr ⟨hsize, rfl, address, rfl⟩
      | error e =>
          have hcall : (onDevice (Device.allocate size) v s).outcome = .error e := hreply
          refine .inl ⟨hsize, rfl, by rintro a ⟨⟩, ?_⟩
          unfold claim
          rw [if_neg hsize, Act.bind_of_ok hfits, hstate, Act.bind_of_error hcall]
          exact ⟨by rintro a ⟨⟩, by rintro e' ⟨⟩; rfl, rfl⟩
      | panic p =>
          have hcall : (onDevice (Device.allocate size) v s).outcome = .panic p := hreply
          refine .inl ⟨hsize, rfl, by rintro a ⟨⟩, ?_⟩
          unfold claim
          rw [if_neg hsize, Act.bind_of_ok hfits, hstate, Act.bind_of_panic hcall]
          exact ⟨by rintro a ⟨⟩, by rintro e ⟨⟩, rfl⟩

/-- **An allocation that the device grants is recorded**, if its address is new to the session, and
announced. -/
theorem allocate_of_new {size : Nat} {address : Address} (hsize : size ≠ 0)
    (hfits : (ensureFits size v s).outcome = .ok ())
    (hreply : (Device.allocate size v s.device).outcome = .ok address)
    (hnew : s.owns address = false) :
    let s' : Session δ := { s with
      device := (Device.allocate size v s.device).state
      tracked := s.tracked ++ [⟨address, size⟩] }
    (allocate size v s).outcome = (announce size address v s').outcome ∧
      (allocate size v s).state = s' := by
  intro s'
  obtain ⟨houtcome, hstate⟩ := allocate_apply size v s
  rcases claim_of_reply hsize hfits hreply with ⟨howned, -⟩ | ⟨-, hclaim, hclaimed⟩
  · exact absurd (hnew.symm.trans howned) Bool.false_ne_true
  · rw [houtcome, hstate, hclaim, hclaimed]
    exact ⟨rfl, rfl⟩

/-- An allocation that the device grants succeeds, if its address is new to the session and the
bytes that the session then owns can be counted. -/
theorem allocate_of_granted {size : Nat} {address : Address} (hsize : size ≠ 0)
    (hfits : (ensureFits size v s).outcome = .ok ())
    (hreply : (Device.allocate size v s.device).outcome = .ok address)
    (hnew : s.owns address = false)
    (hbytes : Word.total (s.tracked.map Allocation.size) + size < Word.bound) :
    (allocate size v s).outcome = .ok address ∧
      (allocate size v s).state = { s with
        device := (Device.allocate size v s.device).state
        tracked := s.tracked ++ [⟨address, size⟩] } := by
  have hsum : allocatedBytes { s with
      device := (Device.allocate size v s.device).state
      tracked := s.tracked ++ [⟨address, size⟩] } =
        .ok (Word.total (s.tracked.map Allocation.size) + size) := by
    rw [allocatedBytes, List.map_append, Word.sum_eq_ok_iff, Word.total_append]
    exact ⟨hbytes, rfl⟩
  obtain ⟨houtcome, hstate⟩ := allocate_of_new hsize hfits hreply hnew
  rw [houtcome, announce_outcome, hsum, Outcome.ok_bind, ite_self]
  exact ⟨rfl, hstate⟩

/-- What an allocation can do: stop before the device is asked, be refused by the device, or be
granted by it. -/
theorem allocate_cases (size : Nat) (v : Verbosity) (s : Session δ) :
    ((∀ a, (allocate size v s).outcome ≠ .ok a) ∧ (allocate size v s).state = s) ∨
      ((∀ a, (Device.allocate size v s.device).outcome ≠ .ok a) ∧
        (∀ a, (allocate size v s).outcome ≠ .ok a) ∧
        (allocate size v s).state =
          { s with device := (Device.allocate size v s.device).state }) ∨
      (size ≠ 0 ∧ (ensureFits size v s).outcome = .ok () ∧
        ∃ address, (Device.allocate size v s.device).outcome = .ok address) := by
  obtain ⟨houtcome, hstate⟩ := allocate_apply size v s
  -- without a claim there is nothing to announce
  have hnone : (∀ a, (claim size v s).outcome ≠ .ok a) →
      ∀ a, (allocate size v s).outcome ≠ .ok a := by
    intro hclaim a h
    rw [houtcome] at h
    obtain ⟨b, hb, -⟩ := Outcome.bind_eq_ok.1 h
    exact hclaim b hb
  rw [hstate]
  rcases claim_cases size v s with ⟨-, hclaim, hkept⟩ | ⟨-, -, hclaim, -, hkept⟩ |
    ⟨-, -, hreply, hclaim, -, hkept⟩ | hgranted
  · refine .inl ⟨hnone ?_, hkept⟩
    rw [hclaim]
    rintro a ⟨⟩
  · exact .inl ⟨hnone hclaim, hkept⟩
  · exact .inr (.inl ⟨hreply, hnone hclaim, hkept⟩)
  · exact .inr (.inr hgranted)

/-- An allocation that succeeds has passed the check, and what the device granted is recorded. -/
theorem allocate_eq_ok {size : Nat} {address : Address}
    (h : (allocate size v s).outcome = .ok address) :
    size ≠ 0 ∧ (ensureFits size v s).outcome = .ok () ∧
      (Device.allocate size v s.device).outcome = .ok address ∧
      (allocate size v s).state = { s with
        device := (Device.allocate size v s.device).state
        tracked := s.tracked ++ [⟨address, size⟩] } := by
  rcases allocate_cases size v s with ⟨hrefused, -⟩ | ⟨-, hrefused, -⟩ |
    ⟨hsize, hfits, granted, hreply⟩
  · exact absurd h (hrefused address)
  · exact absurd h (hrefused address)
  obtain ⟨houtcome, hstate⟩ := allocate_apply size v s
  rcases claim_of_reply hsize hfits hreply with ⟨-, hclaim, -⟩ | ⟨-, hclaim, hclaimed⟩
  · rw [houtcome, hclaim] at h
    cases h
  · rw [houtcome, hclaim, Outcome.ok_bind] at h
    obtain rfl := announce_eq_ok h
    exact ⟨hsize, hfits, hreply, hstate.trans hclaimed⟩

/-- An allocation fails before the device is asked, or because the device fails.  What follows a
grant may panic, but it does not fail. -/
theorem allocate_eq_error {size : Nat} {e : Failure}
    (h : (allocate size v s).outcome = .error e) :
    (size = 0 ∧ e = .invalidInput .zeroSized ∧ (allocate size v s).state = s) ∨
      (size ≠ 0 ∧ (ensureFits size v s).outcome = .error e ∧ (allocate size v s).state = s) ∨
      (size ≠ 0 ∧ (ensureFits size v s).outcome = .ok () ∧
        (Device.allocate size v s.device).outcome = .error e ∧
        (allocate size v s).state =
          { s with device := (Device.allocate size v s.device).state }) := by
  obtain ⟨houtcome, hstate⟩ := allocate_apply size v s
  have hclaim : (claim size v s).outcome = .error e := by
    rw [houtcome] at h
    rcases Outcome.bind_eq_error.1 h with hclaim | ⟨address, -, hannounce⟩
    · exact hclaim
    · exact absurd hannounce (announce_ne_error size address v _ e)
  rw [hstate]
  rcases claim_cases size v s with ⟨hsize, hzero, hkept⟩ | ⟨hsize, -, -, hfits, hkept⟩ |
    ⟨hsize, hfits, -, -, hreply, hkept⟩ | ⟨hsize, hfits, address, hreply⟩
  · exact .inl ⟨hsize, Outcome.error.inj (hclaim.symm.trans hzero), hkept⟩
  · exact .inr (.inl ⟨hsize, hfits e hclaim, hkept⟩)
  · exact .inr (.inr ⟨hsize, hfits, hreply e hclaim, hkept⟩)
  · rcases claim_of_reply hsize hfits hreply with ⟨-, hother, -⟩ | ⟨-, hother, -⟩
    · rw [hclaim] at hother
      cases hother
    · rw [hclaim] at hother
      cases hother

/-- An allocation changes the device by one call at most. -/
theorem allocate_device (size : Nat) (v : Verbosity) (s : Session δ) :
    (allocate size v s).state.device = s.device ∨
      (allocate size v s).state.device = (Device.allocate size v s.device).state := by
  rw [(allocate_apply size v s).2]
  rcases claim_cases size v s with ⟨-, -, hkept⟩ | ⟨-, -, -, -, hkept⟩ |
    ⟨-, -, -, -, -, hkept⟩ | ⟨hsize, hfits, address, hreply⟩
  · exact .inl (congrArg Session.device hkept)
  · exact .inl (congrArg Session.device hkept)
  · exact .inr (congrArg Session.device hkept)
  · rcases claim_of_reply hsize hfits hreply with ⟨-, -, hkept⟩ | ⟨-, -, hkept⟩ <;>
      exact .inr (congrArg Session.device hkept)

end Session

/-! ### Devices led by calls -/

namespace Emulated

/-- One device becomes another by calls, however they end. -/
inductive Leads (d : Emulated) : Emulated → Prop
  | rest : Leads d d
  | call {d' : Emulated} (h : Leads d d') (v : Verbosity) (c : Call) :
      Leads d ((Operation.call c).next v d')

theorem Leads.trans {d d' d'' : Emulated} (h : Leads d d') (h' : Leads d' d'') :
    Leads d d'' := by
  induction h' with
  | rest => exact h
  | call _ v c ih => exact ih.call v c

theorem Leads.one (d : Emulated) (v : Verbosity) (c : Call) :
    Leads d ((Operation.call c).next v d) :=
  Leads.rest.call v c

/-- **What every change keeps, calls keep.** -/
theorem Leads.keeps {I : Emulated → Prop} (step : ∀ {d g d'}, I d → Change d g d' → I d')
    {d d' : Emulated} (h : Leads d d') (hd : I d) : I d' := by
  induction h with
  | rest => exact hd
  | call _ v c ih => exact step ih ((Operation.call c).change v _)

theorem Leads.ordered {d d' : Emulated} (h : Leads d d') (hd : Ordered d) : Ordered d' :=
  h.keeps Ordered.change hd

theorem Leads.ready {d d' : Emulated} (h : Leads d d') (hd : d.ready = true) : d'.ready = true :=
  h.keeps (I := fun d => d.ready = true) (fun hd hchange => hchange.ready hd) hd

/-- Calls leave the equipment of a device as it is. -/
theorem Leads.equipment {d d' : Emulated} (h : Leads d d') : d'.equipment = d.equipment := by
  induction h with
  | rest => rfl
  | call _ v c ih => exact (Operation.equipment_call v _ c).trans ih

theorem Leads.faults {d d' : Emulated} (h : Leads d d') : d'.faults = d.faults :=
  congrArg Equipment.faults h.equipment

end Emulated

namespace Workspace

variable {τ : Type}

/-- **A request makes at most one call.** -/
theorem leads_answer (q : Request τ) (v : Verbosity) (w : Workspace Emulated τ) :
    w.session.device.Leads (answer q v w).state.session.device := by
  cases q with
  | allocate size =>
      rcases Session.allocate_device size v w.session with h | h
      · exact h ▸ .rest
      · exact h ▸ .one _ v (.allocate size)
  | store address bytes => exact .one _ v (.copyToDevice address bytes)
  | fetch address size =>
      exact congrArg Session.device (Session.fetch_state address size v w.session) ▸ .rest
  | free address =>
      cases howns : w.session.owns address with
      | true =>
          have h := congrArg Session.device (Session.free_of_owned howns v).2
          exact h ▸ .one _ v (.free address)
      | false =>
          have h := congrArg (fun r => r.state.device) (Session.free_of_unowned howns v)
          exact h ▸ .rest
  | launch kernel geometry args =>
      rcases Session.launch_state kernel geometry args v w.session with h | h
      · exact congrArg Session.device h ▸ .rest
      · exact congrArg Session.device h ▸ .one _ v (.launch kernel geometry args)
  | synchronize => exact .one _ v .synchronize
  | inspect => exact .rest
  | note level message fields =>
      have h : (answer (.note level message fields) v w).state = w := Act.note_state ..
      exact h ▸ .rest
  | load => exact .rest
  | save data => exact .rest

theorem leads_after (v : Verbosity) (qs : List (Request τ)) (w : Workspace Emulated τ) :
    w.session.device.Leads (after v qs w).session.device := by
  induction qs generalizing w with
  | nil => exact .rest
  | cons q qs ih => exact (leads_answer q v w).trans (ih _)

end Workspace

theorem Program.leads_perform {τ α : Type} (p : Program τ α) (v : Verbosity)
    (w : Workspace Emulated τ) : w.session.device.Leads (p.perform v w).state.session.device := by
  rw [perform_state]
  exact Workspace.leads_after v _ w

namespace Run

variable {τ ε σ ρ : Type}

theorem leads_freeEach (v : Verbosity) (l : List Address) (d : Emulated) :
    d.Leads (freeEach v l d).2 := by
  induction l generalizing d with
  | nil => exact .rest
  | cons a rest ih => exact (Emulated.Leads.one d v (.free a)).trans (ih _)

/-- The end of a session makes calls only. -/
theorem leads_teardown (v : Verbosity) (s : Session Emulated) :
    s.device.Leads (Session.teardown v s).state.device := by
  rw [(teardown_frees Emulated.free_returns v s).2]
  exact leads_freeEach v _ s.device

theorem leads_setup (config : Config) (v : Verbosity) (d : Emulated) :
    d.Leads (setup config v d).state := by
  have hselect := Emulated.Leads.one d v (.select config.deviceOrdinal)
  unfold setup
  rw [Act.bind_apply]
  split
  · exact hselect.trans (.one _ v .reset)
  · exact hselect
  · exact hselect

/-- **A run leads the device by calls**, however it ends. -/
theorem leads_run (config : Config) (watch : Stopwatch) (job : Job τ ε σ ρ) (env : ε)
    (v : Verbosity) (d : Emulated) (t : τ) :
    d.Leads (run config watch job env v (d, t)).state.1 := by
  have hsetup := leads_setup config v d
  by_cases hready : (setup config v d).outcome = .ok ()
  · rw [run_state_of_ready watch job env (s := (d, t)) hready]
    refine hsetup.trans (Emulated.Leads.trans ?_ (leads_teardown v _))
    exact (job.script env).leads_perform v (opening config v (d, t))
  · rw [(run_of_not_ready watch job env (s := (d, t)) hready).1]
    exact hsetup

end Run

end Offload
