/-
**Calls that panic.**

A device call is to return, with a value or with a failure.  All calls do, on every device whose
queue holds nothing that panics, with one exception: an allocation panics if the buffer is larger
than a block of host memory, or if the address counter cannot go on behind it.  A session asks for
nothing in its way, so it panics for the same sizes, unless it refuses them first.

A kernel panics if its own arithmetic does.  The reference kernels compute an index, which fits in a
word in every thread of a launch, and the place of an element, which does as well.

Main definitions:

* `Offload.Kernel.Returns` — a kernel that does not panic, whatever the memory is;
* `Offload.Emulated.Calm` — a device on which nothing that is queued panics;
* `Offload.Emulated.Overruns` — a device that panics when it is asked for a buffer.

Main results:

* `Offload.Emulated.calm_of_kernels` — where no kernel panics, nothing that is queued does;
* `Offload.Reference.returns_doubleValue`, `Offload.Reference.returns_affineIndex` — the reference
  kernels do not panic;
* `Offload.calls_panic_only_for_want_of_room` — **which calls panic, and when**.
-/

import Offload.Proofs.Headroom
import Offload.Proofs.Isolation

set_option autoImplicit false

namespace Offload

/-! ### Kernels that return -/

theorem Outcome.returns_bind {α β : Type} {x : Outcome α} {f : α → Outcome β}
    (hx : x.returns = true) (hf : ∀ a, (f a).returns = true) : (x >>= f).returns = true := by
  cases x with
  | ok a => exact hf a
  | error e => rfl
  | panic p => cases hx

namespace Memory

/-- A place that can be computed in words is found, or lies outside. -/
theorem returns_offset {width index : Nat} (h : index * width + width < Word.bound) (size : Nat) :
    (offset width index size).returns = true := by
  have hstart : Word.mul index width = .ok (index * width) :=
    Word.mul_eq_ok_iff.2 ⟨by omega, rfl⟩
  have hstop : Word.add (index * width) width = .ok (index * width + width) :=
    Word.add_eq_ok_iff.2 ⟨h, rfl⟩
  unfold offset
  rw [hstart, Outcome.ok_bind, hstop, Outcome.ok_bind]
  split <;> rfl

theorem returns_read {width index : Nat} (h : index * width + width < Word.bound) (m : Memory)
    (address : Address) : (m.read address width index).returns = true := by
  have hbytes : (m.bytes address).returns = true := by
    unfold bytes
    split <;> rfl
  refine Outcome.returns_bind hbytes fun buffer => ?_
  exact Outcome.returns_bind (returns_offset h buffer.size) fun _ => rfl

theorem returns_write {index : Nat} {bytes : List UInt8}
    (h : index * bytes.length + bytes.length < Word.bound) (m : Memory) (address : Address) :
    (m.write address index bytes).1.returns = true := by
  have hsize : (m.size address).returns = true := by
    unfold size
    split <;> rfl
  have hplace := Outcome.returns_bind hsize fun size => returns_offset h size
  unfold write
  cases hwrite : m.size address >>= offset bytes.length index with
  | ok start => rfl
  | error e => rfl
  | panic p =>
      rw [hwrite] at hplace
      cases hplace

end Memory

namespace Kernel

variable {α β : Type}

/-- A kernel does not panic, whatever the memory is. -/
def Returns (k : Kernel α) : Prop :=
  ∀ m, (k.run m).1.returns = true

theorem returns_pure (a : α) : Returns (pure a) :=
  fun _ => rfl

theorem Returns.bind {k : Kernel α} {f : α → Kernel β} (hk : k.Returns)
    (hf : ∀ a, (f a).Returns) : Returns (k >>= f) := by
  intro m
  have hkm := hk m
  rcases hrun : k.run m with ⟨outcome, m'⟩
  rw [hrun] at hkm
  cases outcome with
  | ok a =>
      rw [run_bind_of_ok hrun]
      exact hf a m'
  | error e =>
      rw [run_bind_of_error hrun]
      rfl
  | panic p => cases hkm

theorem returns_request {q : Access} (h : ∀ m : Memory, (m.answer q).1.returns = true) :
    Returns (Dialogue.request q : Kernel q.Answer) := by
  intro m
  have hq := h m
  rcases hanswer : m.answer q with ⟨reply, m'⟩
  rw [hanswer] at hq
  unfold Dialogue.request
  cases reply with
  | ok a =>
      rw [run_ask_of_ok hanswer]
      rfl
  | error e =>
      rw [run_ask_of_error hanswer]
      rfl
  | panic p => cases hq

theorem returns_read [Pod α] {index : Nat}
    (h : index * Pod.width α + Pod.width α < Word.bound) (address : Address) :
    Returns (read address index : Kernel α) :=
  (returns_request (q := .read address (Pod.width α) index) fun m =>
    m.returns_read h address).bind fun _ => returns_pure _

theorem returns_write [Pod α] {index : Nat}
    (h : index * Pod.width α + Pod.width α < Word.bound) (address : Address) (value : α) :
    Returns (write address index value) := by
  refine returns_request fun m => m.returns_write ?_ address
  rw [Pod.length_encode]
  exact h

theorem returns_pointerArg (args : List Arg) (i : Nat) : Returns (pointerArg args i) := by
  unfold pointerArg
  split
  · exact returns_pure _
  · exact fun _ => rfl

end Kernel

namespace Reference

variable {g : Geometry} {t : Thread}

theorem returns_doubleValue (h : t.Inside g) (args : List Arg) : (doubleValue t args).Returns := by
  obtain ⟨x, hx⟩ := Thread.exists_globalX h
  have hplace : 0 * 4 + 4 < Word.bound := by decide
  unfold doubleValue
  rw [hx]
  refine Kernel.Returns.bind (Kernel.returns_pure x) fun x => ?_
  split
  · refine (Kernel.returns_pointerArg args 0).bind fun input => ?_
    refine (Kernel.returns_read hplace input).bind fun env => ?_
    refine (Kernel.returns_pointerArg args 1).bind fun output => ?_
    exact Kernel.returns_write hplace output _
  · exact Kernel.returns_pure _

theorem returns_affineIndex (h : t.Inside g) (args : List Arg) :
    (affineIndex t args).Returns := by
  obtain ⟨x, hx⟩ := Thread.exists_globalX h
  have hplace : 0 * 16 + 16 < Word.bound := by decide
  unfold affineIndex
  rw [hx]
  refine (Kernel.returns_pointerArg args 0).bind fun input => ?_
  refine (Kernel.returns_read hplace input).bind fun env => ?_
  refine Kernel.Returns.bind (Kernel.returns_pure x) fun x => ?_
  split
  · rename_i hlt
    -- the index is below a count of thirty-two bits
    have hcount := env.count.toNat_lt_size
    have hroom : UInt32.size * 4 < Word.bound := by decide
    refine (Kernel.returns_pointerArg args 1).bind fun output => ?_
    refine Kernel.returns_write ?_ output _
    change x * 4 + 4 < Word.bound
    omega
  · exact Kernel.returns_pure _

end Reference

/-! ### Queues that return -/

namespace Emulated

/-- Nothing that is queued panics, on a memory with the buffers of the device. -/
def Calm (d : Emulated) : Prop :=
  ∀ l ∈ d.pending, ∀ body, d.body? l.kernel = some body → ∀ n < l.geometry.count,
    ∀ m, m.layout = d.memory.layout → ((body (l.geometry.thread n) l.args).run m).1.returns = true

/-- Where no kernel panics, nothing that is queued does. -/
theorem calm_of_kernels {d : Emulated}
    (h : ∀ kernel body, d.body? kernel = some body → ∀ g t, t.Inside g → ∀ args,
      (body t args).Returns) : d.Calm := by
  intro l _ body hbody n hn m _
  exact h l.kernel body hbody l.geometry _ (Geometry.inside_thread hn) l.args m

/-- Threads return if each of them does on every memory with the given buffers: no thread can change
that. -/
theorem runThreads_returns {body : Thread → Kernel Unit} {geometry : Geometry}
    {layout : List Allocation} (count first : Nat)
    (h : ∀ n, first ≤ n → n < first + count → ∀ m : Memory, m.layout = layout →
      ((body (geometry.thread n)).run m).1.returns = true)
    {m : Memory} (hm : m.layout = layout) :
    (runThreads body geometry count first m).1.returns = true := by
  induction count generalizing first m with
  | zero => rfl
  | succ count ih =>
      have hfirst := h first (Nat.le_refl _) (by omega) m hm
      have hlayout := ((body (geometry.thread first)).run_layout m).1
      simp only [runThreads]
      rcases hrun : (body (geometry.thread first)).run m with ⟨outcome, m'⟩
      rw [hrun] at hfirst hlayout
      cases outcome with
      | ok u => exact ih (first + 1) (fun n hle hlt => h n (by omega) (by omega)) (hlayout.trans hm)
      | error e => rfl
      | panic p => cases hfirst

theorem runLaunches_returns {ls : List Launch} {v : Verbosity} {d : Emulated}
    (h : ∀ l ∈ ls, ∀ body, d.body? l.kernel = some body → ∀ n < l.geometry.count,
      ∀ m, m.layout = d.memory.layout →
        ((body (l.geometry.thread n) l.args).run m).1.returns = true) :
    (runLaunches ls v d).outcome.returns = true := by
  -- one launch keeps the buffers, so the hypothesis is still there for those that follow
  induction ls generalizing d with
  | nil => rfl
  | cons l rest ih =>
      have hone : (runLaunch l v d).outcome.returns = true := by
        cases hbody : d.body? l.kernel with
        | none =>
            unfold runLaunch
            rw [Act.bind_of_ok rfl, Step.after_outcome]
            simp only [Act.get_apply, hbody]
            rfl
        | some body =>
            rw [(runLaunch_of_body hbody v).1]
            refine runThreads_returns l.geometry.count 0 (fun n _ hn => ?_) rfl
            exact h l List.mem_cons_self body hbody n (by omega)
      obtain ⟨m, hstate, hlayout, -⟩ := runLaunch_state l v d
      unfold runLaunches
      cases hrun : (runLaunch l v d).outcome with
      | ok u =>
          rw [Act.bind_of_ok hrun, Step.after_outcome, hstate]
          refine ih fun l' hl' body hbody n hn m' hm' => ?_
          exact h l' (List.mem_cons_of_mem _ hl') body hbody n hn m' (hm'.trans hlayout)
      | error e =>
          rw [Act.bind_of_error hrun]
          rfl
      | panic p =>
          rw [hrun] at hone
          cases hone

theorem synchronize_returns {d : Emulated} (h : d.Calm) (v : Verbosity) :
    (synchronize v d).outcome.returns = true := by
  rcases synchronize_cases v d with ⟨-, hcall⟩ | ⟨-, status, -, hcall⟩ | ⟨-, -, hcall⟩
  · rw [hcall]
    rfl
  · rw [hcall]
    rfl
  · rw [hcall]
    exact runLaunches_returns h

end Emulated

/-- Nothing that is queued on a device with the reference kernels panics. -/
theorem Reference.calm_of_kernels {d : Emulated} (h : d.kernels = device.kernels) : d.Calm := by
  refine Emulated.calm_of_kernels fun kernel body hbody g t ht args => ?_
  have hregistered : device.body? kernel = some body := by
    unfold Emulated.body? at hbody ⊢
    rw [← h]
    exact hbody
  unfold device register at hregistered
  rw [Emulated.body?_register, Emulated.body?_register] at hregistered
  split at hregistered
  · cases hregistered
    exact returns_affineIndex ht args
  · split at hregistered
    · cases hregistered
      exact returns_doubleValue ht args
    · cases hregistered

/-! ### Allocations that panic -/

namespace Emulated

/-- A device that panics when it is asked for a buffer: it would make it, and there is no room. -/
def Overruns (d : Emulated) (size : Nat) : Prop :=
  d.ready = true ∧ d.allocationFault = none ∧ ¬ d.memory.HasRoom size

theorem allocate_returns_iff {size : Nat} {v : Verbosity} {d : Emulated} :
    (allocate size v d).outcome.returns = true ↔ ¬ d.Overruns size := by
  rcases allocate_endings size v d with ⟨hrefused, status, h⟩ |
    ⟨hready, hfault, ⟨hroom, h, -⟩ | ⟨hroom, p, h⟩⟩
  · rw [h]
    exact ⟨fun _ hover => hrefused ⟨hover.1, hover.2.1⟩, fun _ => rfl⟩
  · rw [h]
    exact ⟨fun _ hover => hover.2.2 hroom, fun _ => rfl⟩
  · rw [h]
    exact ⟨nofun, fun hnot => absurd ⟨hready, hfault, hroom⟩ hnot⟩

end Emulated

namespace Session

variable {s : Session Emulated}

/-- The check of a session does not panic: the bytes in use can be counted. -/
theorem Held.ensureFits_returns (h : s.Held) (size : Nat) (v : Verbosity) :
    (ensureFits size v s).outcome.returns = true := by
  have hinfo : ∃ info, Device.memoryInfo s.device = .ok info := by
    cases hcapacity : s.device.capacity with
    | none =>
        refine ⟨none, ?_⟩
        change Emulated.memoryInfo s.device = _
        unfold Emulated.memoryInfo
        rw [hcapacity]
    | some capacity => exact ⟨_, Emulated.memoryInfo_of_ordered h.ordered hcapacity⟩
  obtain ⟨info, hinfo⟩ := hinfo
  unfold ensureFits
  rw [Act.bind_of_ok rfl, Step.after_outcome]
  simp only [Act.get_apply]
  split
  · rw [hinfo, Act.bind_of_ok rfl, Step.after_outcome]
    cases info with
    | none => rfl
    | some info =>
        dsimp only
        split <;> rfl
  · rfl

theorem Held.allocate_returns_iff (h : s.Held) {size : Nat} {v : Verbosity} :
    (Session.allocate size v s).outcome.returns = true ↔
      ¬ (size ≠ 0 ∧ (ensureFits size v s).outcome = .ok () ∧ s.device.Overruns size) := by
  by_cases hsize : size = 0
  · unfold Session.allocate
    rw [if_pos hsize]
    exact ⟨fun _ hover => hover.1 hsize, fun _ => rfl⟩
  · cases hcheck : (ensureFits size v s).outcome with
    | ok u =>
        rw [h.allocate_outcome hsize hcheck, Emulated.allocate_returns_iff]
        exact ⟨fun hnot hover => hnot hover.2.2, fun hnot hover => hnot ⟨hsize, rfl, hover⟩⟩
    | error e =>
        unfold Session.allocate
        rw [if_neg hsize, Act.bind_of_error hcheck]
        exact ⟨fun _ hover => (nomatch hover.2.1), fun _ => rfl⟩
    | panic p =>
        have hreturns := h.ensureFits_returns size v
        rw [hcheck] at hreturns
        cases hreturns

end Session

/-- An array panics as the allocation that it needs does. -/
theorem Program.allocSlice_returns_iff {τ α : Type} [Pod α] {length : Nat} {v : Verbosity}
    {w : Workspace Emulated τ} :
    ((allocSlice α length).perform v w).outcome.returns = true ↔
      (length * Pod.width α < Word.bound →
        (Session.allocate (length * Pod.width α) v w.session).outcome.returns = true) := by
  unfold allocSlice
  by_cases hbound : length * Pod.width α < Word.bound
  · have hanswer : ((allocate (length * Pod.width α)).perform v w).outcome =
        (Session.allocate (length * Pod.width α) v w.session).outcome := by
      rw [allocate, perform_request]
      rfl
    rw [if_pos hbound, perform_bind]
    cases hreply : (Session.allocate (length * Pod.width α) v w.session).outcome with
    | ok address =>
        rw [Act.bind_of_ok (hanswer.trans hreply)]
        exact ⟨fun _ _ => rfl, fun _ => rfl⟩
    | error e =>
        rw [Act.bind_of_error (hanswer.trans hreply)]
        exact ⟨fun _ _ => rfl, fun _ => rfl⟩
    | panic p =>
        rw [Act.bind_of_panic (hanswer.trans hreply)]
        exact ⟨fun h => absurd h Bool.false_ne_true, fun h => h hbound⟩
  · rw [if_neg hbound]
    exact ⟨fun _ h => absurd h hbound, fun _ => rfl⟩

/-! ### Which calls panic -/

/-- **Which calls panic, and when.**  On a device whose queue holds nothing that panics, every call
returns, whatever its arguments are, but for an allocation that the device would make and has no
room for.  In every state of a session on such a device an allocation panics for the same sizes,
unless the session refuses them first, and so does an array whose size fits in a word. -/
theorem calls_panic_only_for_want_of_room {d : Emulated} (hd : d.Reachable) (hcalm : d.Calm)
    (v : Verbosity) :
    (∀ ordinal, (Emulated.select ordinal v d).outcome.returns = true) ∧
    (Emulated.reset v d).outcome.returns = true ∧
    (∀ address, (Emulated.free address v d).outcome.returns = true) ∧
    (∀ address bytes, (Emulated.copyToDevice address bytes v d).outcome.returns = true) ∧
    (∀ address buffer, (Emulated.copyFromDevice address v (d, buffer)).outcome.returns = true) ∧
    (∀ kernel geometry args, (Emulated.launch kernel geometry args v d).outcome.returns = true) ∧
    (Emulated.synchronize v d).outcome.returns = true ∧
    (∀ size, (Emulated.allocate size v d).outcome.returns = true ↔ ¬ d.Overruns size) ∧
    ∀ (τ : Type) (config : Config) (t : τ) (qs : List (Request τ)),
      let w := Workspace.after v qs ⟨Session.start d config, t⟩
      let refused := fun size => (Session.ensureFits size v w.session).outcome ≠ .ok ()
      (∀ size, (Session.allocate size v w.session).outcome.returns = true ↔
        (size = 0 ∨ refused size ∨ ¬ w.session.device.Overruns size)) ∧
      ∀ (α : Type) [Pod α] (length : Nat),
        ((Program.allocSlice α length).perform v w).outcome.returns = true ↔
          (Word.bound ≤ length * Pod.width α ∨ length * Pod.width α = 0 ∨
            refused (length * Pod.width α) ∨
            ¬ w.session.device.Overruns (length * Pod.width α)) := by
  refine ⟨fun ordinal => (Emulated.settles_select ordinal).returns v d,
    Emulated.settles_reset.returns v d, fun address => (Emulated.settles_free address).returns v d,
    fun address bytes => (Emulated.settles_copyToDevice address bytes).returns v d,
    fun address buffer => (Emulated.settles_copyFromDevice address).returns v (d, buffer),
    fun kernel geometry args => (Emulated.settles_launch kernel geometry args).returns v d,
    Emulated.synchronize_returns hcalm v, fun _ => Emulated.allocate_returns_iff, ?_⟩
  intro τ config t qs w refused
  have hheld : w.session.Held :=
    (Workspace.agrees_after hd.ordered v qs (w := ⟨Session.start d config, t⟩)
      (Session.agrees_start hd.ordered config)).held
  have hallocate : ∀ size, (Session.allocate size v w.session).outcome.returns = true ↔
      (size = 0 ∨ refused size ∨ ¬ w.session.device.Overruns size) := by
    intro size
    rw [hheld.allocate_returns_iff, not_and_or, not_and_or, not_not]
  refine ⟨hallocate, fun α _ length => ?_⟩
  rw [Program.allocSlice_returns_iff, hallocate, ← Nat.not_lt]
  exact Decidable.imp_iff_not_or

/-- A device with the reference kernels, ready, on which two launches wait. -/
def busy : Emulated :=
  Emulated.after .off [.call (.select 0), .call .reset, .call (.allocate 4), .call (.allocate 4),
    .call (.launch "double_value" ⟨.line 1, .line 1⟩
      [.pointer ⟨0x7f0000000000⟩, .pointer ⟨0x7f0000000100⟩]),
    .call (.launch "affine_index" ⟨.line 2, ⟨3, 4, 5⟩⟩ [])] Reference.device

/-- The second of two launches fails for want of arguments, and no call of the device panics but an
allocation of more than a block of host memory. -/
theorem busy_panics_only_for_want_of_room :
    busy.Reachable ∧ busy.Calm ∧
      (Emulated.synchronize .off busy).outcome = .error (.invalidInput (.notAPointer 0)) ∧
      (Emulated.synchronize .off busy).outcome.returns = true ∧
      (Emulated.allocate 0x7fffffffffffffff .off busy).outcome.returns = true ∧
      (Emulated.allocate 0x8000000000000000 .off busy).outcome.returns ≠ true := by
  have hd : busy.Reachable := Reference.reachable_device.after .off _
  have hcalm : busy.Calm := Reference.calm_of_kernels rfl
  obtain ⟨-, -, -, -, -, -, hsynchronize, hallocate, -⟩ :=
    calls_panic_only_for_want_of_room hd hcalm .off
  have hroom : busy.memory.HasRoom 0x7fffffffffffffff := ⟨by decide, by decide +kernel⟩
  have hnoroom : ¬ busy.memory.HasRoom 0x8000000000000000 := fun h => absurd h.small (by decide)
  refine ⟨hd, hcalm, by decide +kernel, hsynchronize, ?_, ?_⟩
  · exact (hallocate _).2 fun hover => hover.2.2 hroom
  · exact fun hreturns => (hallocate _).1 hreturns ⟨rfl, rfl, hnoroom⟩

/-- A session on a new device is asked for half of all addresses: it panics. -/
theorem vast_allocation_panics :
    let d := Emulated.after .off [.call (.select 0), .call .reset] Emulated.new
    (Session.allocate 0x8000000000000000 .off (Session.start d {})).outcome =
      .panic .capacityOverflow := by
  decide +kernel

end Offload
