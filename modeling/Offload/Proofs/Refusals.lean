/-
**Calls that fail.**

A call that fails has changed nothing: every check comes before the first change.  Most calls of an
emulated device can therefore end in two ways only, with a value or with a failure that leaves no
trace.  Two calls are different.  A synchronization empties the queue before it runs what was
queued, and an allocation for which there is no room panics.

A session adds one step to the calls that it makes.  What it records follows a grant, so an
allocation of a session that fails has changed nothing either; only the copy of a host array, which
is an allocation and then a write, may fail half way.

Main definitions:

* `Offload.Act.Traceless` — an action that changes nothing when it fails;
* `Offload.Act.Settles` — an action that succeeds, or fails and changes nothing;
* `Offload.Memory.HasRoom` — there is room for one more buffer;
* `Offload.Session.extended` — a session with one more allocation.

Main results:

* `Offload.Emulated.settles_select`, `Offload.Emulated.settles_free`, … — calls that settle;
* `Offload.Emulated.allocate_endings` — the three ways in which an allocation can end;
* `Offload.failed_calls_leave_no_trace` — **what fails leaves no trace**, call by call.
-/

import Offload.Proofs.Emulated.Runs
import Offload.Proofs.KernelUnits

set_option autoImplicit false

namespace Offload

/-! ### Actions that change nothing when they fail -/

namespace Act

variable {σ τ α β : Type} {x : Act σ α}

/-- An action that fails has changed nothing. -/
def Traceless (x : Act σ α) : Prop :=
  ∀ v s e, (x v s).outcome = .error e → (x v s).state = s

/-- An action succeeds, or it fails and changes nothing.  It does not panic. -/
def Settles (x : Act σ α) : Prop :=
  ∀ v s, (∃ a, (x v s).outcome = .ok a) ∨ ∃ e, (x v s).outcome = .error e ∧ (x v s).state = s

theorem Settles.traceless (h : x.Settles) : x.Traceless := by
  intro v s e herror
  rcases h v s with ⟨a, hok⟩ | ⟨-, -, hstate⟩
  · rw [hok] at herror
    cases herror
  · exact hstate

theorem Settles.returns (h : x.Settles) (v : Verbosity) (s : σ) :
    (x v s).outcome.returns = true := by
  rcases h v s with ⟨a, hok⟩ | ⟨e, herror, -⟩
  · rw [hok]
    rfl
  · rw [herror]
    rfl

theorem Traceless.onPart {x : Act τ α} (h : x.Traceless) (part : σ → τ) (put : τ → σ → σ)
    (hput : ∀ s, put (part s) s = s) : (Act.onPart part put x).Traceless := by
  intro v s e herror
  change put (x v (part s)).state s = s
  rw [h v (part s) e herror, hput]

/-- What follows does not fail. -/
theorem Traceless.bind {f : α → Act σ β} (hx : x.Traceless)
    (hf : ∀ a v s e, (f a v s).outcome ≠ .error e) : (x >>= f).Traceless := by
  intro v s e herror
  rcases bind_eq_error.1 herror with h | ⟨a, -, h⟩
  · rw [bind_of_error h]
    exact hx v s e h
  · exact absurd h (hf a v _ e)

end Act

/-! ### Room for one more buffer -/

namespace Memory

variable {m : Memory} {size : Nat}

/-- There is room for one more buffer: it is no larger than a block of host memory, and the counter
can go on behind it. -/
structure HasRoom (m : Memory) (size : Nat) : Prop where
  small : size ≤ largestBuffer
  lt_bound : m.frontier + reserve size < Word.bound

theorem span_ne_error (size : Nat) (e : Failure) : span size ≠ .error e := by
  intro h
  rcases Outcome.bind_eq_error.1 h with hadd | ⟨n, -, hpure⟩
  · exact Word.add_ne_error _ _ _ hadd
  · cases hpure

/-- Without room for it, a buffer is not made: the attempt panics. -/
theorem allocate_of_no_room (h : ¬ m.HasRoom size) : ∃ p, (m.allocate size).1 = .panic p := by
  simp only [allocate]
  cases hnext : span size >>= Word.add m.frontier with
  | ok next =>
      by_cases hsize : size ≤ largestBuffer
      · rw [span_eq hsize] at hnext
        exact absurd ⟨hsize, (Word.add_eq_ok_iff.1 hnext).1⟩ h
      · simp only [if_neg hsize]
        exact ⟨_, rfl⟩
  | error e =>
      rcases Outcome.bind_eq_error.1 hnext with hspan | ⟨n, -, hadd⟩
      · exact absurd hspan (span_ne_error size e)
      · exact absurd hadd (Word.add_ne_error _ _ e)
  | panic p => exact ⟨p, rfl⟩

end Memory

/-! ### Calls of a device -/

namespace Emulated

theorem settles_select (ordinal : UInt32) : (select ordinal).Settles := by
  intro v d
  rcases select_cases ordinal v d with ⟨e, h⟩ | h
  · rw [h]
    exact Or.inr ⟨e, rfl, rfl⟩
  · rw [h]
    exact Or.inl ⟨(), rfl⟩

theorem settles_reset : reset.Settles := by
  intro v d
  rcases reset_cases v d with ⟨e, h⟩ | h
  · rw [h]
    exact Or.inr ⟨e, rfl, rfl⟩
  · rw [h]
    exact Or.inl ⟨(), rfl⟩

theorem settles_free (address : Address) : (free address).Settles := by
  intro v d
  rcases free_cases address v d with h | ⟨memory, -, -, h, -⟩
  · exact Or.inr h
  · exact Or.inl ⟨(), h⟩

theorem settles_copyToDevice (address : Address) (bytes : List UInt8) :
    (copyToDevice address bytes).Settles := by
  intro v d
  rcases copyToDevice_cases address bytes v d with h | ⟨-, -, h, -⟩
  · exact Or.inr h
  · exact Or.inl ⟨(), h⟩

/-- A copy to the host that fails has changed neither the device nor the host buffer. -/
theorem settles_copyFromDevice (address : Address) : (copyFromDevice address).Settles := by
  rintro v ⟨d, buffer⟩
  rcases copyFromDevice_cases address v d buffer with ⟨e, -, h⟩ | ⟨bytes, -, h⟩
  · rw [h]
    exact Or.inr ⟨e, rfl, rfl⟩
  · rw [h]
    exact Or.inl ⟨(), rfl⟩

theorem settles_launch (kernel : String) (geometry : Geometry) (args : List Arg) :
    (launch kernel geometry args).Settles := by
  intro v d
  rcases guarded_cases (rfl : launch kernel geometry args =
      guarded .launch (fun d => d.faults.launch) _) v d with
    ⟨status, h⟩ | ⟨-, -, h⟩
  · rw [h]
    exact Or.inr ⟨_, rfl, rfl⟩
  · rw [h]
    cases hbody : d.body? kernel with
    | none => exact Or.inr ⟨_, rfl, rfl⟩
    | some body => exact Or.inl ⟨(), rfl⟩

/-- **The three ways in which an allocation can end**: the device refuses it and changes nothing,
grants it, or panics for want of room. -/
theorem allocate_endings (size : Nat) (v : Verbosity) (d : Emulated) :
    (¬ (d.ready = true ∧ d.allocationFault = none) ∧
        ∃ status, allocate size v d = ⟨.error (.deviceCall .allocate status), d, []⟩) ∨
      (d.ready = true ∧ d.allocationFault = none ∧
        ((d.memory.HasRoom size ∧ (allocate size v d).outcome = .ok (Address.ofNat d.frontier) ∧
            (allocate size v d).state = d.extended size) ∨
          (¬ d.memory.HasRoom size ∧ ∃ p, (allocate size v d).outcome = .panic p))) := by
  have hact : allocate size = guarded .allocate allocationFault _ := rfl
  by_cases hasked : d.ready = true ∧ d.allocationFault = none
  · obtain ⟨hready, hfault⟩ := hasked
    refine Or.inr ⟨hready, hfault, ?_⟩
    by_cases hroom : d.memory.HasRoom size
    · exact Or.inl ⟨hroom, allocate_of_ready hready hfault hroom.small hroom.lt_bound v⟩
    · obtain ⟨p, hpanic⟩ := Memory.allocate_of_no_room hroom
      refine Or.inr ⟨hroom, p, ?_⟩
      rw [guarded_of_ready hact hready hfault, Act.bind_of_panic hpanic]
  · refine Or.inl ⟨hasked, ?_⟩
    rcases guarded_cases hact v d with h | ⟨hready, hfault, -⟩
    · exact h
    · exact absurd ⟨hready, hfault⟩ hasked

/-- An allocation that fails is one that the device refuses. -/
theorem allocate_eq_error {size : Nat} {v : Verbosity} {d : Emulated} {e : Failure}
    (h : (allocate size v d).outcome = .error e) :
    (∃ status, e = .deviceCall .allocate status) ∧ (allocate size v d).state = d := by
  rcases allocate_endings size v d with ⟨-, status, hcall⟩ | ⟨-, -, ⟨-, hok, -⟩ | ⟨-, p, hpanic⟩⟩
  · rw [hcall] at h ⊢
    cases h
    exact ⟨⟨status, rfl⟩, rfl⟩
  · rw [hok] at h
    cases h
  · rw [hpanic] at h
    cases h

/-- An allocation that succeeds adds one buffer, at the frontier. -/
theorem allocate_eq_ok {size : Nat} {v : Verbosity} {d : Emulated} {address : Address}
    (h : (allocate size v d).outcome = .ok address) :
    address = Address.ofNat d.frontier ∧ (allocate size v d).state = d.extended size := by
  rcases allocate_endings size v d with ⟨-, status, hcall⟩ |
    ⟨-, -, ⟨-, hok, hstate⟩ | ⟨-, p, hpanic⟩⟩
  · rw [hcall] at h
    cases h
  · rw [hok] at h
    cases h
    exact ⟨rfl, hstate⟩
  · rw [hpanic] at h
    cases h

/-- However a synchronization ends, it has emptied the queue if there is a context, and may have run
a part of it if it is not told to fail.  No buffer was made, freed or resized. -/
theorem synchronize_leaves (v : Verbosity) (d : Emulated) :
    (d.ready = false ∧ (synchronize v d).state = d) ∨
      (d.ready = true ∧ d.faults.synchronize ≠ none ∧
        (synchronize v d).state = { d with pending := [] }) ∨
      (d.ready = true ∧ d.faults.synchronize = none ∧ ∃ memory,
        (synchronize v d).state = { d with
          memory
          pending := []
          stats := { d.stats with synchronizations := d.stats.synchronizations + 1 } } ∧
        memory.layout = d.memory.layout ∧ memory.next = d.memory.next) := by
  rcases synchronize_cases v d with
    ⟨hready, hcall⟩ | ⟨hready, status, hfault, hcall⟩ | ⟨hready, hfault, hcall⟩
  · rw [hcall]
    exact Or.inl ⟨hready, rfl⟩
  · rw [hcall, hfault]
    exact Or.inr (Or.inl ⟨hready, Option.some_ne_none status, rfl⟩)
  · obtain ⟨m, hstate, hlayout, hnext⟩ := runLaunches_state d.pending v { d with
      pending := []
      stats := { d.stats with synchronizations := d.stats.synchronizations + 1 } }
    rw [hcall, hstate]
    exact Or.inr (Or.inr ⟨hready, hfault, m, rfl, hlayout, hnext⟩)

end Emulated

/-! ### Sessions -/

namespace Session

/-- A session with one more allocation, which the device has filled with poison. -/
def extended (s : Session Emulated) (size : Nat) : Session Emulated :=
  { s with
    device := s.device.extended size
    tracked := s.tracked ++ [⟨Address.ofNat s.device.frontier, size⟩] }

theorem traceless_allocate (size : Nat) :
    (allocate size : Act (Session Emulated) Address).Traceless := by
  intro v s e h
  rcases allocate_eq_error h with ⟨-, -, hstate⟩ | ⟨-, -, hstate⟩ | ⟨-, -, hreply, hstate⟩
  · exact hstate
  · exact hstate
  · rw [hstate]
    exact congrArg (fun d => { s with device := d }) (Emulated.allocate_eq_error hreply).2

/-- An allocation that passes the check ends as it does on the device. -/
theorem Held.allocate_outcome {size : Nat} {v : Verbosity} {s : Session Emulated} (h : s.Held)
    (hsize : size ≠ 0) (hfits : (ensureFits size v s).outcome = .ok ()) :
    (Session.allocate size v s).outcome = (Emulated.allocate size v s.device).outcome := by
  cases hreply : (Emulated.allocate size v s.device).outcome with
  | ok address => exact (h.allocate hsize hfits hreply).1
  | error e =>
      have hcall : (onDevice (Device.allocate size) v s).outcome = .error e := hreply
      unfold Session.allocate
      rw [if_neg hsize, Act.bind_of_ok hfits, ensureFits_state, Act.bind_of_error hcall]
      rfl
  | panic p =>
      have hcall : (onDevice (Device.allocate size) v s).outcome = .panic p := hreply
      unfold Session.allocate
      rw [if_neg hsize, Act.bind_of_ok hfits, ensureFits_state, Act.bind_of_panic hcall]
      rfl

/-- An allocation that succeeds adds one buffer and one entry. -/
theorem allocate_extends {size : Nat} {v : Verbosity} {s : Session Emulated} {address : Address}
    (h : (allocate size v s).outcome = .ok address) :
    (allocate size v s).state = s.extended size := by
  obtain ⟨-, -, hreply, hstate⟩ := allocate_eq_ok h
  obtain ⟨rfl, hdevice⟩ := Emulated.allocate_eq_ok hreply
  rw [hstate]
  exact congrArg (fun d => ({ s with
    device := d
    tracked := s.tracked ++ [⟨Address.ofNat s.device.frontier, size⟩] } : Session Emulated)) hdevice

end Session

namespace Program

variable {τ α : Type} [Pod α]

/-- An array that is not allocated leaves no trace. -/
theorem traceless_allocSlice (length : Nat) :
    ((allocSlice α length).perform : Act (Workspace Emulated τ) (Slice α)).Traceless := by
  unfold allocSlice
  split
  · rw [perform_bind]
    refine Act.Traceless.bind ?_ fun a v w e h => (nomatch h)
    intro v w e h
    rw [allocate, perform_request] at h ⊢
    exact (Session.traceless_allocate _).onPart Workspace.session _ (fun _ => rfl) v w e h
  · intro v w e h
    rfl

/-- An array that is not overwritten leaves no trace. -/
theorem traceless_write {s : Slice α} {host : List α} (h : host.length = s.length) :
    ((write s host).perform : Act (Workspace Emulated τ) Unit).Traceless := by
  intro v w e herror
  unfold write at herror ⊢
  rw [if_pos h, store, perform_request] at herror ⊢
  have hcall := (Emulated.settles_copyToDevice s.address (Pod.encodeAll host)).traceless
  have hstore : (Session.store s.address (Pod.encodeAll host) :
      Act (Session Emulated) Unit).Traceless := hcall.onPart Session.device _ fun _ => rfl
  exact hstore.onPart Workspace.session _ (fun _ => rfl) v w e herror

/-- A copy of a host array that is not made leaves no trace, or an array that was not written. -/
theorem uploadSlice_eq_error {host : List α} {v : Verbosity} {w : Workspace Emulated τ}
    {e : Failure} (h : ((uploadSlice host).perform v w).outcome = .error e) :
    ((uploadSlice host).perform v w).state = w ∨
      ((uploadSlice host).perform v w).state =
        { w with session := w.session.extended (host.length * Pod.width α) } := by
  unfold uploadSlice at h ⊢
  rw [perform_bind] at h ⊢
  rcases Act.bind_eq_error.1 h with halloc | ⟨s, halloc, hrest⟩
  · rw [Act.bind_of_error halloc]
    exact Or.inl (traceless_allocSlice host.length v w e halloc)
  · -- the array is there, so it is the write that fails, and it leaves the array as it found it
    obtain ⟨hlength, haddress, hstate⟩ := allocSlice_eq_ok halloc
    have hwrite : ((write s host >>= fun _ => pure s : Program τ (Slice α)).perform :
        Act (Workspace Emulated τ) (Slice α)).Traceless := by
      rw [perform_bind]
      exact (traceless_write hlength.symm).bind fun _ _ _ _ h => nomatch h
    have hextends := Session.allocate_extends haddress
    refine Or.inr ?_
    rw [Act.bind_of_ok halloc, Step.after_state, hwrite v _ e hrest, hstate]
    exact congrArg (fun s => { w with session := s }) hextends

end Program

/-! ### What fails leaves no trace -/

/-- **What fails leaves no trace.**  The calls of a device that fail have changed nothing, and a
copy to the host that fails has left the host buffer as it was too.  A synchronization that fails
has emptied the queue, unless the context is missing, and has left the layout and the counter of the
memory and all the history but the number of synchronizations as they were.  An allocation of a
session that fails has changed nothing, and the copy of a host array that fails has changed nothing
or has added one buffer of poison at the frontier, which the session owns. -/
theorem failed_calls_leave_no_trace :
    (∀ ordinal, (Emulated.select ordinal).Traceless) ∧
    Emulated.reset.Traceless ∧
    (∀ size, (Emulated.allocate size).Traceless) ∧
    (∀ address, (Emulated.free address).Traceless) ∧
    (∀ address bytes, (Emulated.copyToDevice address bytes).Traceless) ∧
    (∀ address, (Emulated.copyFromDevice address).Traceless) ∧
    (∀ kernel geometry args, (Emulated.launch kernel geometry args).Traceless) ∧
    (∀ v d e, (Emulated.synchronize v d).outcome = .error e →
      (d.ready = false ∧ (Emulated.synchronize v d).state = d) ∨
        (d.ready = true ∧ d.faults.synchronize ≠ none ∧
          (Emulated.synchronize v d).state = { d with pending := [] }) ∨
        (d.ready = true ∧ d.faults.synchronize = none ∧ ∃ memory,
          (Emulated.synchronize v d).state = { d with
            memory
            pending := []
            stats := { d.stats with synchronizations := d.stats.synchronizations + 1 } } ∧
          memory.layout = d.memory.layout ∧ memory.next = d.memory.next)) ∧
    (∀ size, (Session.allocate size : Act (Session Emulated) Address).Traceless) ∧
    (∀ (τ α : Type) [Pod α] (length : Nat),
      ((Program.allocSlice α length).perform : Act (Workspace Emulated τ) (Slice α)).Traceless) ∧
    (∀ (τ α : Type) [Pod α] (host : List α) v (w : Workspace Emulated τ) e,
      ((Program.uploadSlice host).perform v w).outcome = .error e →
        ((Program.uploadSlice host).perform v w).state = w ∨
          ((Program.uploadSlice host).perform v w).state =
            { w with session := w.session.extended (host.length * Pod.width α) }) := by
  refine ⟨fun ordinal => (Emulated.settles_select ordinal).traceless,
    Emulated.settles_reset.traceless, ?_, fun address => (Emulated.settles_free address).traceless,
    fun address bytes => (Emulated.settles_copyToDevice address bytes).traceless,
    fun address => (Emulated.settles_copyFromDevice address).traceless,
    fun kernel geometry args => (Emulated.settles_launch kernel geometry args).traceless, ?_,
    Session.traceless_allocate, ?_, ?_⟩
  · intro size v d e h
    exact (Emulated.allocate_eq_error h).2
  · intro v d e _
    exact Emulated.synchronize_leaves v d
  · intro τ α _ length
    exact Program.traceless_allocSlice length
  · intro τ α _ host v w e h
    exact Program.uploadSlice_eq_error h

/-- A device that is ready, and is told to refuse what is written to it. -/
def unwritable : Emulated :=
  Emulated.after .off [.call (.select 0), .call .reset]
    (Emulated.fresh 1 none { copyToDevice := some 700 })

/-- Two numbers are allocated and not written. -/
theorem failed_upload_leaves_one_buffer :
    let w : Workspace Emulated Unit := ⟨Session.start unwritable {}, ()⟩
    let upload := (Program.uploadSlice [(7 : UInt32), 8]).perform .off w
    upload.outcome = .error (.deviceCall .copyToDevice 700) ∧
      (upload.state = w ∨ upload.state = { w with session := w.session.extended 8 }) ∧
      upload.state.session.tracked = [⟨Address.ofNat Memory.base, 8⟩] ∧
      upload.state.session.device.memory.buffers =
        [⟨Address.ofNat Memory.base, Array.replicate 8 0xcd⟩] := by
  have hfails : ((Program.uploadSlice [(7 : UInt32), 8]).perform .off
      (⟨Session.start unwritable {}, ()⟩ : Workspace Emulated Unit)).outcome =
        .error (.deviceCall .copyToDevice 700) := by decide +kernel
  obtain ⟨-, -, -, -, -, -, -, -, -, -, hupload⟩ := failed_calls_leave_no_trace
  exact ⟨hfails, hupload Unit UInt32 [7, 8] .off _ _ hfails, by decide +kernel, by decide +kernel⟩

end Offload
