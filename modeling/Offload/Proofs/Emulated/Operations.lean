/-
**What can be done to an emulated device.**

An emulated device is reached through its eight calls and through the registration of kernels; a
kernel reaches the memory only while `synchronize` runs it.  Each of these operations returns, fails
or panics, and leaves a device behind in any case.  What they can do is said once, by the relation
`Emulated.Change`: an invariant of the device is proved against its eleven cases, and
`Emulated.run_invariant` carries it through every sequence of operations.

A panicking allocation is the one operation that stops half way: the address counter has moved and
no buffer was made.

Main definitions:

* `Offload.Operation`, `Offload.Operation.next`, `Offload.Operation.grant?` — one operation, the
  device that it leaves, and the allocation that it makes;
* `Offload.Emulated.after`, `Offload.Emulated.grants` — the same for a sequence of operations;
* `Offload.Emulated.fresh` — a device on which nothing has been done;
* `Offload.Emulated.Change` — everything that an operation can do.

Main results:

* `Offload.Kernel.run_layout` — a kernel makes and frees no buffers, and resizes none;
* `Offload.Operation.change` — every operation is a change;
* `Offload.Emulated.run_invariant` — what every change keeps, every sequence of operations keeps.
-/

import Offload.Proofs.View
import Offload.Emulated.Device
import Offload.Recorder

set_option autoImplicit false

namespace Offload

/-! ### Memory -/

namespace Memory

/-- The addresses of the live buffers, in the order of allocation. -/
def addresses (m : Memory) : List Address :=
  m.buffers.map Buffer.address

/-- The live buffers as allocations, in the order in which they were made. -/
def layout (m : Memory) : List Allocation :=
  m.buffers.map fun b => ⟨b.address, b.bytes.size⟩

theorem map_address_layout (m : Memory) : m.layout.map Allocation.address = m.addresses := by
  simp only [layout, addresses, List.map_map]
  rfl

theorem addresses_congr {m m' : Memory} (h : m'.layout = m.layout) :
    m'.addresses = m.addresses := by
  rw [← map_address_layout, ← map_address_layout, h]

theorem find?_eq_none_iff {m : Memory} {address : Address} :
    m.find? address = none ↔ address ∉ m.addresses := by
  simp only [find?, addresses, List.find?_eq_none, List.mem_map, decide_eq_true_eq]
  exact ⟨fun h ⟨b, hb, ha⟩ => h b hb ha, fun h b hb ha => h ⟨b, hb, ha⟩⟩

@[simp] theorem addresses_update (m : Memory) (address : Address) (f : Array UInt8 → Array UInt8) :
    (m.update address f).addresses = m.addresses := by
  simp only [addresses, update, List.map_map]
  congr 1
  funext b
  simp only [Function.comp]
  split <;> rfl

/-- New contents of the same size leave the layout as it is. -/
theorem layout_update {m : Memory} {address : Address} {f : Array UInt8 → Array UInt8}
    (h : ∀ b ∈ m.buffers, b.address = address → (f b.bytes).size = b.bytes.size) :
    (m.update address f).layout = m.layout := by
  simp only [layout, update, List.map_map]
  refine List.map_congr_left fun b hb => ?_
  simp only [Function.comp]
  split
  · rename_i heq
    rw [h b hb heq]
  · rfl

/-- A release takes away the buffers of one address, if there are any. -/
theorem release_eq_some {m m' : Memory} {address : Address} (h : m.release address = some m') :
    address ∈ m.addresses ∧ m'.next = m.next ∧
      m'.addresses = m.addresses.filter fun a => a ≠ address := by
  unfold release at h
  cases hfind : m.find? address with
  | none => simp [hfind] at h
  | some b =>
      simp only [hfind, Option.some.injEq] at h
      subst h
      have hmem := List.mem_of_find?_eq_some hfind
      have heq : b.address = address := by simpa using List.find?_some hfind
      refine ⟨List.mem_map.2 ⟨b, hmem, heq⟩, rfl, ?_⟩
      simp only [addresses, List.filter_map]
      rfl

/-- The counter may go on to `next` after an allocation of `size` bytes. -/
structure Fits (m : Memory) (size next : Nat) : Prop where
  lt : m.frontier < next
  le : m.frontier + size ≤ next
  dvd : alignment ∣ next - m.frontier
  lt_bound : next < Word.bound

theorem fits_of_eq_ok {m : Memory} {size next : Nat}
    (h : span size >>= Word.add m.frontier = .ok next) : m.Fits size next := by
  obtain ⟨n, hspan, hadd⟩ := Outcome.bind_eq_ok.1 h
  obtain ⟨padded, hpadded, hpure⟩ := Outcome.bind_eq_ok.1 hspan
  obtain ⟨-, hpadded⟩ := Word.add_eq_ok_iff.1 hpadded
  obtain ⟨hbound, hnext⟩ := Word.add_eq_ok_iff.1 hadd
  have hn : n = (padded - 1) / alignment * alignment := by cases hpure; rfl
  -- the range is the size, at least one, rounded up to the alignment
  have hround : max size 1 ≤ n := by
    simp only [alignment] at hn hpadded
    omega
  have hle : size ≤ n := Nat.le_trans (Nat.le_max_left size 1) hround
  have hpos : 1 ≤ n := Nat.le_trans (Nat.le_max_right size 1) hround
  refine ⟨by omega, by omega, ?_, by omega⟩
  rw [hnext, Nat.add_sub_cancel_left, hn]
  exact Nat.dvd_mul_left alignment _

/-- What an allocation can do: make a buffer at the frontier, or only move the counter. -/
theorem allocate_cases (m : Memory) (size : Nat) :
    (∃ next, m.Fits size next ∧ size ≤ largestBuffer ∧
        m.allocate size = (.ok (Address.ofNat m.frontier),
          ⟨m.buffers ++ [⟨Address.ofNat m.frontier, Array.replicate size poison⟩], next⟩)) ∨
      ∃ next, (next = m.frontier ∨ m.Fits size next) ∧
        (∀ a, (m.allocate size).1 ≠ .ok a) ∧ (m.allocate size).2 = { m with next } := by
  simp only [allocate]
  cases hnext : span size >>= Word.add m.frontier with
  | ok next =>
      have hfits := fits_of_eq_ok hnext
      by_cases hsize : size ≤ largestBuffer
      · exact Or.inl ⟨next, hfits, hsize, by simp only [if_pos hsize]⟩
      · simp only [if_neg hsize]
        exact Or.inr ⟨next, Or.inr hfits, fun a h => (nomatch h), rfl⟩
  | error e => exact Or.inr ⟨m.frontier, Or.inl rfl, fun a h => (nomatch h), rfl⟩
  | panic p => exact Or.inr ⟨m.frontier, Or.inl rfl, fun a h => (nomatch h), rfl⟩

/-- The answer to a kernel makes, frees and resizes no buffers. -/
theorem answer_layout (m : Memory) (q : Access) :
    (m.answer q).2.layout = m.layout ∧ (m.answer q).2.next = m.next := by
  cases q with
  | size address => exact ⟨rfl, rfl⟩
  | read address width index => exact ⟨rfl, rfl⟩
  | write address index bytes =>
      simp only [answer, write]
      split
      · exact ⟨layout_update fun b _ _ => size_splice .., rfl⟩
      · exact ⟨rfl, rfl⟩
      · exact ⟨rfl, rfl⟩

end Memory

/-- **A kernel makes, frees and resizes no buffers**, whatever it asks for and however it ends. -/
theorem Kernel.run_layout {α : Type} (k : Kernel α) (m : Memory) :
    (k.run m).2.layout = m.layout ∧ (k.run m).2.next = m.next := by
  induction k generalizing m with
  | done a => exact ⟨rfl, rfl⟩
  | fail e => exact ⟨rfl, rfl⟩
  | panic p => exact ⟨rfl, rfl⟩
  | ask q next ih =>
      -- a kernel may go on after an access that fails, but not after one that panics
      obtain ⟨hlayout, hnext⟩ := m.answer_layout q
      simp only [Kernel.run]
      split
      all_goals
        rename_i hanswer
        rw [hanswer] at hlayout hnext
      · exact ⟨(ih _ _).1.trans hlayout, (ih _ _).2.trans hnext⟩
      · exact ⟨(ih _ _).1.trans hlayout, (ih _ _).2.trans hnext⟩
      · exact ⟨hlayout, hnext⟩

namespace Emulated

theorem runThreads_layout (body : Thread → Kernel Unit) (geometry : Geometry)
    (count first : Nat) (m : Memory) :
    (runThreads body geometry count first m).2.layout = m.layout ∧
      (runThreads body geometry count first m).2.next = m.next := by
  induction count generalizing first m with
  | zero => exact ⟨rfl, rfl⟩
  | succ count ih =>
      obtain ⟨hlayout, hnext⟩ := (body (geometry.thread first)).run_layout m
      simp only [runThreads]
      split
      all_goals
        rename_i hrun
        rw [hrun] at hlayout hnext
      · exact ⟨(ih _ _).1.trans hlayout, (ih _ _).2.trans hnext⟩
      · exact ⟨hlayout, hnext⟩
      · exact ⟨hlayout, hnext⟩

/-! ### Launches -/

/-- One launch changes nothing but the contents of the buffers. -/
theorem runLaunch_state (l : Launch) (v : Verbosity) (d : Emulated) :
    ∃ m : Memory, (runLaunch l v d).state = { d with memory := m } ∧
      m.layout = d.memory.layout ∧ m.next = d.memory.next := by
  unfold runLaunch
  rw [Act.bind_of_ok (rfl : (Act.get v d).outcome = .ok d), Step.after_state]
  cases hbody : d.body? l.kernel with
  | none => exact ⟨d.memory, rfl, rfl, rfl⟩
  | some body => exact ⟨_, rfl, runThreads_layout ..⟩

/-- So do launches in order. -/
theorem runLaunches_state (ls : List Launch) (v : Verbosity) (d : Emulated) :
    ∃ m : Memory, (runLaunches ls v d).state = { d with memory := m } ∧
      m.layout = d.memory.layout ∧ m.next = d.memory.next := by
  induction ls generalizing d with
  | nil => exact ⟨d.memory, rfl, rfl, rfl⟩
  | cons l rest ih =>
      obtain ⟨m, hstate, hlayout, hnext⟩ := runLaunch_state l v d
      unfold runLaunches
      cases hrun : (runLaunch l v d).outcome with
      | error e => exact ⟨m, by rw [Act.bind_of_error hrun, hstate], hlayout, hnext⟩
      | panic p => exact ⟨m, by rw [Act.bind_of_panic hrun, hstate], hlayout, hnext⟩
      | ok u =>
          obtain ⟨m', hstate', hlayout', hnext'⟩ := ih { d with memory := m }
          refine ⟨m', ?_, hlayout'.trans hlayout, hnext'.trans hnext⟩
          rw [Act.bind_of_ok hrun, Step.after_state, hstate, hstate']

/-! ### Calls -/

/-- A device is selected and has a context. -/
def ready (d : Emulated) : Bool :=
  d.selected.isSome && d.contextReady

theorem requireContext_apply (call : DeviceCall) (v : Verbosity) (d : Emulated) :
    requireContext call v d =
      ⟨if d.ready then .ok () else .error (.deviceCall call noContext), d, []⟩ := by
  unfold requireContext
  rw [Act.bind_of_ok (rfl : (Act.get v d).outcome = .ok d)]
  change Step.after [] ((if d.ready = true then pure () else _ : Act Emulated Unit) v d) = _
  cases d.ready <;> rfl

/-- A call that needs a context, may be told to fail, and then looks at the device. -/
def guarded {α : Type} (call : DeviceCall) (fault : Emulated → Option Int32)
    (x : Emulated → Act Emulated α) : Act Emulated α := do
  requireContext call
  let d ← Act.get
  injected call (fault d)
  x d

section Guarded

variable {α : Type} {act : Act Emulated α} {call : DeviceCall} {fault : Emulated → Option Int32}
  {x : Emulated → Act Emulated α} {d : Emulated}

/-- On a device that is ready such a call does what it is for, unless it is told to fail. -/
theorem guarded_of_ready (hact : act = guarded call fault x) (hready : d.ready = true)
    (hfault : fault d = none) (v : Verbosity) : act v d = x d v d := by
  have hcontext := requireContext_apply call v d
  rw [hready] at hcontext
  subst hact
  unfold guarded
  rw [Act.bind_of_ok (by rw [hcontext]; rfl), hcontext, Step.after_nil,
    Act.bind_of_ok (rfl : (Act.get v d).outcome = .ok d), hfault]
  rfl

theorem guarded_of_fault (hact : act = guarded call fault x) (hready : d.ready = true)
    {status : Int32} (hfault : fault d = some status) (v : Verbosity) :
    act v d = ⟨.error (.deviceCall call status), d, []⟩ := by
  have hcontext := requireContext_apply call v d
  rw [hready] at hcontext
  subst hact
  unfold guarded
  rw [Act.bind_of_ok (by rw [hcontext]; rfl), hcontext, Step.after_nil,
    Act.bind_of_ok (rfl : (Act.get v d).outcome = .ok d), hfault]
  rfl

theorem guarded_of_not_ready (hact : act = guarded call fault x) (hready : d.ready = false)
    (v : Verbosity) : act v d = ⟨.error (.deviceCall call noContext), d, []⟩ := by
  have hcontext := requireContext_apply call v d
  rw [hready] at hcontext
  subst hact
  unfold guarded
  rw [Act.bind_of_error (by rw [hcontext]; rfl), hcontext]

/-- Such a call fails with a status and changes nothing, or it goes on with a device that is
ready. -/
theorem guarded_cases (hact : act = guarded call fault x) (v : Verbosity) (d : Emulated) :
    (∃ status, act v d = ⟨.error (.deviceCall call status), d, []⟩) ∨
      (d.ready = true ∧ fault d = none ∧ act v d = x d v d) := by
  cases hready : d.ready with
  | false => exact Or.inl ⟨noContext, guarded_of_not_ready hact hready v⟩
  | true =>
      cases hfault : fault d with
      | some status => exact Or.inl ⟨status, guarded_of_fault hact hready hfault v⟩
      | none => exact Or.inr ⟨rfl, rfl, guarded_of_ready hact hready hfault v⟩

end Guarded

/-! ### Changes -/

/-- Everything that an operation can do to a device, and the allocation that it makes. -/
inductive Change (d : Emulated) : Option Allocation → Emulated → Prop
  /-- The operation was refused, or it only reads. -/
  | rest : Change d none d
  | selected (ordinal : UInt32) : Change d none { d with selected := some ordinal }
  | cleared (h : d.selected.isSome = true) :
      Change d none { d with pending := [], contextReady := true }
  | registered (name : String) (body : Kernel.Body) : Change d none (d.register name body)
  /-- A buffer is made at the frontier. -/
  | granted (size next : Nat) (hready : d.ready = true) (hfault : d.allocationFault = none)
      (hnext : d.memory.Fits size next) (hsize : size ≤ Memory.largestBuffer) :
      Change d (some ⟨Address.ofNat d.memory.frontier, size⟩)
        { d with
          memory := ⟨d.memory.buffers ++
            [⟨Address.ofNat d.memory.frontier, Array.replicate size Memory.poison⟩], next⟩
          stats := { d.stats with
            allocations := d.stats.allocations + 1
            allocOrder := d.stats.allocOrder ++ [Address.ofNat d.memory.frontier] } }
  /-- An allocation panics; the counter may have moved. -/
  | interrupted (size next : Nat) (hready : d.ready = true)
      (hnext : next = d.memory.frontier ∨ d.memory.Fits size next) :
      Change d none { d with memory := { d.memory with next } }
  | released (address : Address) (memory : Memory) (hready : d.ready = true)
      (h : d.memory.release address = some memory) (hfault : d.faults.free = none) :
      Change d none { d with
        memory
        stats := { d.stats with
          frees := d.stats.frees + 1
          freeOrder := d.stats.freeOrder ++ [address] } }
  | overwritten (address : Address) (bytes : List UInt8) (hready : d.ready = true)
      (hsize : d.memory.size? address = some bytes.length) :
      Change d none { d with memory := d.memory.replace address bytes }
  | queued (l : Launch) (hready : d.ready = true) (h : (d.body? l.kernel).isSome = true) :
      Change d none { d with
        pending := d.pending ++ [l]
        stats := { d.stats with launches := d.stats.launches + 1 } }
  /-- The queue is forgotten by a synchronization that is told to fail. -/
  | dropped (hready : d.ready = true) : Change d none { d with pending := [] }
  /-- The queue is run, up to the first launch that does not succeed. -/
  | executed (memory : Memory) (hready : d.ready = true)
      (hlayout : memory.layout = d.memory.layout) (hnext : memory.next = d.memory.next) :
      Change d none { d with
        memory
        pending := []
        stats := { d.stats with synchronizations := d.stats.synchronizations + 1 } }

/-- The allocation that an attempt to allocate made. -/
def granted? (size : Nat) : Outcome Address → Option Allocation
  | .ok address => some ⟨address, size⟩
  | _ => none

theorem change_select (ordinal : UInt32) (v : Verbosity) (d : Emulated) :
    Change d none (select ordinal v d).state := by
  unfold select
  rw [Act.bind_of_ok (rfl : (Act.get v d).outcome = .ok d), Step.after_state]
  split
  · exact Change.rest
  · exact Change.selected ordinal

theorem change_reset (v : Verbosity) (d : Emulated) : Change d none (reset v d).state := by
  unfold reset
  rw [Act.bind_of_ok (rfl : (Act.get v d).outcome = .ok d), Step.after_state]
  split
  · exact Change.rest
  · rename_i hselected
    cases hfault : d.faults.reset with
    | some status => exact Change.rest
    | none => exact Change.cleared (by simpa [Option.isSome_iff_ne_none] using hselected)

theorem change_allocate (size : Nat) (v : Verbosity) (d : Emulated) :
    Change d (granted? size (allocate size v d).outcome) (allocate size v d).state := by
  rcases guarded_cases (rfl : allocate size = guarded .allocate allocationFault _) v d with
    ⟨status, h⟩ | ⟨hready, hfault, h⟩
  · rw [h]
    exact Change.rest
  · rw [h]
    have hmemory : Act.onPart Emulated.memory (fun m d => { d with memory := m })
        (Act.update fun m => m.allocate size) v d =
          ⟨(d.memory.allocate size).1, { d with memory := (d.memory.allocate size).2 }, []⟩ := rfl
    rcases d.memory.allocate_cases size with
      ⟨next, hnext, hsize, hok⟩ | ⟨next, hnext, hpanic, hstate⟩
    · rw [hok] at hmemory
      rw [Act.bind_of_ok (by rw [hmemory]), hmemory]
      exact Change.granted size next hready hfault hnext hsize
    · -- the counter has moved and nothing is noted, since the call stops here
      rw [hstate] at hmemory
      cases houtcome : (d.memory.allocate size).1 with
      | ok a => exact absurd houtcome (hpanic a)
      | error e =>
          rw [Act.bind_of_error (by rw [hmemory, houtcome]), hmemory]
          exact Change.interrupted size next hready hnext
      | panic p =>
          rw [Act.bind_of_panic (by rw [hmemory, houtcome]), hmemory]
          exact Change.interrupted size next hready hnext

/-- An attempt to free: it fails and changes nothing, or it releases a buffer and returns. -/
theorem free_cases (address : Address) (v : Verbosity) (d : Emulated) :
    (∃ e, (free address v d).outcome = .error e ∧ (free address v d).state = d) ∨
      ∃ memory, d.ready = true ∧ d.memory.release address = some memory ∧
        (free address v d).outcome = .ok () ∧
        (free address v d).state = { d with
          memory
          stats := { d.stats with
            frees := d.stats.frees + 1
            freeOrder := d.stats.freeOrder ++ [address] } } := by
  rcases guarded_cases (rfl : free address = guarded .free (fun d => d.faults.free) _) v d with
    ⟨status, h⟩ | ⟨hready, -, h⟩
  · rw [h]
    exact Or.inl ⟨_, rfl, rfl⟩
  · rw [h]
    cases hrelease : d.memory.release address with
    | none => exact Or.inl ⟨_, rfl, rfl⟩
    | some memory => exact Or.inr ⟨memory, hready, rfl, rfl, rfl⟩

/-- Freeing never panics. -/
theorem free_returns (address : Address) (v : Verbosity) (d : Emulated) :
    (free address v d).outcome.returns = true := by
  rcases free_cases address v d with ⟨e, h, -⟩ | ⟨memory, -, -, h, -⟩
  · rw [h]
    rfl
  · rw [h]
    rfl

theorem change_free (address : Address) (v : Verbosity) (d : Emulated) :
    Change d none (free address v d).state := by
  rcases guarded_cases (rfl : free address = guarded .free (fun d => d.faults.free) _) v d with
    ⟨status, h⟩ | ⟨hready, hfault, h⟩
  · rw [h]
    exact Change.rest
  · rw [h]
    cases hrelease : d.memory.release address with
    | none => exact Change.rest
    | some memory => exact Change.released address memory hready hrelease hfault

/-- An attempt to overwrite a buffer: it fails and changes nothing, or the buffer has this size and
the attempt succeeds. -/
theorem copyToDevice_cases (address : Address) (bytes : List UInt8) (v : Verbosity)
    (d : Emulated) :
    (∃ e, (copyToDevice address bytes v d).outcome = .error e ∧
        (copyToDevice address bytes v d).state = d) ∨
      (d.ready = true ∧ d.memory.size? address = some bytes.length ∧
        (copyToDevice address bytes v d).outcome = .ok () ∧
        (copyToDevice address bytes v d).state =
          { d with memory := d.memory.replace address bytes }) := by
  rcases guarded_cases (rfl : copyToDevice address bytes =
      guarded .copyToDevice (fun d => d.faults.copyToDevice) _) v d with
    ⟨status, h⟩ | ⟨hready, -, h⟩
  · rw [h]
    exact Or.inl ⟨_, rfl, rfl⟩
  · rw [h]
    cases hfound : d.memory.size? address with
    | none =>
        have hsize : d.memory.size address = .error (.invalidHandle address) := by
          simp [Memory.size, hfound]
        rw [hsize]
        exact Or.inl ⟨_, rfl, rfl⟩
    | some size =>
        have hsize : d.memory.size address = .ok size := by
          simp [Memory.size, hfound]
        rw [hsize, Act.bind_of_ok rfl]
        by_cases heq : size = bytes.length
        · rw [if_pos heq]
          exact Or.inr ⟨hready, by rw [heq], rfl, rfl⟩
        · rw [if_neg heq]
          exact Or.inl ⟨_, rfl, rfl⟩

theorem change_copyToDevice (address : Address) (bytes : List UInt8) (v : Verbosity)
    (d : Emulated) : Change d none (copyToDevice address bytes v d).state := by
  rcases copyToDevice_cases address bytes v d with ⟨e, -, h⟩ | ⟨hready, hsize, -, h⟩
  · rw [h]
    exact Change.rest
  · rw [h]
    exact Change.overwritten address bytes hready hsize

/-- The contents of a live buffer of a given size: what a copy to the host delivers. -/
def contents (address : Address) (size : Nat) : Act Emulated (List UInt8) :=
  guarded .copyFromDevice (fun d => d.faults.copyFromDevice) fun d => do
    let bytes ← Act.ofOutcome (d.memory.bytes address)
    if bytes.size = size then pure bytes.toList else Act.fail (.sizeMismatch bytes.size size)

/-- Contents are delivered from a buffer that is there and has the size, or the attempt fails. -/
theorem contents_cases (address : Address) (size : Nat) (v : Verbosity) (d : Emulated) :
    (∃ e, contents address size v d = ⟨.error e, d, []⟩) ∨
      ∃ bytes, d.memory.bytes address = .ok bytes ∧ bytes.size = size ∧
        contents address size v d = ⟨.ok bytes.toList, d, []⟩ := by
  rcases guarded_cases (rfl : contents address size = guarded .copyFromDevice _ _) v d with
    ⟨status, h⟩ | ⟨-, -, h⟩
  · exact Or.inl ⟨_, h⟩
  · rw [h]
    unfold Memory.bytes
    cases d.memory.find? address with
    | none => exact Or.inl ⟨_, rfl⟩
    | some b =>
        rw [Act.bind_of_ok rfl]
        by_cases hsize : b.bytes.size = size
        · rw [if_pos hsize]
          exact Or.inr ⟨_, rfl, hsize, rfl⟩
        · rw [if_neg hsize]
          exact Or.inl ⟨_, rfl⟩

theorem copyFromDevice_of_not_ready {d : Emulated} (hready : d.ready = false) (address : Address)
    (v : Verbosity) (buffer : List UInt8) :
    copyFromDevice address v (d, buffer) =
      ⟨.error (.deviceCall .copyFromDevice noContext), (d, buffer), []⟩ := by
  have hfirst : Act.onFirst (requireContext .copyFromDevice) v (d, buffer) =
      ⟨.error (.deviceCall .copyFromDevice noContext), (d, buffer), []⟩ := by
    simp only [Act.onFirst, Act.onPart, requireContext_apply, hready]
    rfl
  unfold copyFromDevice
  rw [Act.bind_of_error (by rw [hfirst]), hfirst]

/-- On a device that is ready a copy to the host goes on to compare the sizes. -/
theorem copyFromDevice_of_ready {d : Emulated} (hready : d.ready = true) (address : Address)
    (v : Verbosity) (buffer : List UInt8) :
    copyFromDevice address v (d, buffer) =
      (do
        Act.onFirst (injected .copyFromDevice d.faults.copyFromDevice)
        let bytes ← Act.ofOutcome (d.memory.bytes address)
        if bytes.size = buffer.length then Act.modify fun s => (s.1, bytes.toList)
        else Act.fail (.sizeMismatch bytes.size buffer.length) :
          Act (Emulated × List UInt8) Unit) v (d, buffer) := by
  have hfirst : Act.onFirst (requireContext .copyFromDevice) v (d, buffer) =
      ⟨.ok (), (d, buffer), []⟩ := by
    simp only [Act.onFirst, Act.onPart, requireContext_apply, hready]
    rfl
  unfold copyFromDevice
  rw [Act.bind_of_eq hfirst]
  rfl

/-- **A copy to the host changes nothing on the device.  It fills the host buffer with the contents
that the device delivers, or fails and leaves the host buffer as it was.** -/
theorem copyFromDevice_cases (address : Address) (v : Verbosity) (d : Emulated)
    (buffer : List UInt8) :
    (∃ e, contents address buffer.length v d = ⟨.error e, d, []⟩ ∧
        copyFromDevice address v (d, buffer) = ⟨.error e, (d, buffer), []⟩) ∨
      ∃ bytes, contents address buffer.length v d = ⟨.ok bytes, d, []⟩ ∧
        copyFromDevice address v (d, buffer) = ⟨.ok (), (d, bytes), []⟩ := by
  cases hready : d.ready with
  | false =>
      exact Or.inl ⟨_, guarded_of_not_ready rfl hready v,
        copyFromDevice_of_not_ready hready address v buffer⟩
  | true =>
      have hcopy := copyFromDevice_of_ready hready address v buffer
      cases hfault : d.faults.copyFromDevice with
      | some status =>
          rw [hfault] at hcopy
          exact Or.inl ⟨_, guarded_of_fault rfl hready hfault v, hcopy⟩
      | none =>
          rw [hfault] at hcopy
          rw [hcopy, contents, guarded_of_ready rfl hready hfault]
          unfold Memory.bytes
          cases d.memory.find? address with
          | none => exact Or.inl ⟨_, rfl, rfl⟩
          | some b =>
              rw [Act.bind_of_eq (rfl : Act.onFirst (injected .copyFromDevice none) v (d, buffer) =
                ⟨.ok (), (d, buffer), []⟩), Act.bind_of_ok rfl, Act.bind_of_ok rfl]
              by_cases hsize : b.bytes.size = buffer.length
              · rw [if_pos hsize, if_pos hsize]
                exact Or.inr ⟨_, rfl, rfl⟩
              · rw [if_neg hsize, if_neg hsize]
                exact Or.inl ⟨_, rfl, rfl⟩

/-- A copy into a buffer of zeros delivers the contents. -/
theorem read_eq_contents (address : Address) (size : Nat) :
    Device.read address size = contents address size := by
  funext v d
  have hlength : (List.replicate size (0 : UInt8)).length = size := List.length_replicate
  unfold Device.read
  rcases copyFromDevice_cases address v d (List.replicate size 0) with
    ⟨e, hcontents, hcopy⟩ | ⟨bytes, hcontents, hcopy⟩
  · rw [hlength] at hcontents
    rw [hcontents]
    change Act.filling _ (copyFromDevice address) v d = _
    simp only [Act.filling, hcopy]
    rfl
  · rw [hlength] at hcontents
    rw [hcontents]
    change Act.filling _ (copyFromDevice address) v d = _
    simp only [Act.filling, hcopy]
    rfl

/-- Reading changes nothing. -/
theorem read_state (address : Address) (size : Nat) (v : Verbosity) (d : Emulated) :
    (Device.read address size v d).state = d := by
  rw [read_eq_contents]
  rcases contents_cases address size v d with ⟨e, h⟩ | ⟨bytes, -, -, h⟩
  · rw [h]
  · rw [h]

theorem change_launch (kernel : String) (geometry : Geometry) (args : List Arg) (v : Verbosity)
    (d : Emulated) : Change d none (launch kernel geometry args v d).state := by
  rcases guarded_cases (rfl : launch kernel geometry args =
      guarded .launch (fun d => d.faults.launch) _) v d with
    ⟨status, h⟩ | ⟨hready, -, h⟩
  · rw [h]
    exact Change.rest
  · rw [h]
    cases hbody : d.body? kernel with
    | none => exact Change.rest
    | some body => exact Change.queued ⟨kernel, geometry, args⟩ hready (by rw [hbody]; rfl)

/-- A synchronization on a device that is ready: the queue is emptied first. -/
theorem synchronize_of_ready {d : Emulated} (hready : d.ready = true)
    (hfault : d.faults.synchronize = none) (v : Verbosity) :
    synchronize v d = runLaunches d.pending v { d with
      pending := []
      stats := { d.stats with synchronizations := d.stats.synchronizations + 1 } } := by
  have hcontext := requireContext_apply .synchronize v d
  rw [hready] at hcontext
  unfold synchronize
  rw [Act.bind_of_ok (by rw [hcontext]; rfl), hcontext, Step.after_nil,
    Act.bind_of_ok (rfl : (Act.get v d).outcome = .ok d), hfault]
  rfl

/-- A synchronization is refused for want of a context, is told to fail and forgets the queue, or
runs it. -/
theorem synchronize_cases (v : Verbosity) (d : Emulated) :
    (d.ready = false ∧
        synchronize v d = ⟨.error (.deviceCall .synchronize noContext), d, []⟩) ∨
      (d.ready = true ∧ ∃ status, d.faults.synchronize = some status ∧
        synchronize v d =
          ⟨.error (.deviceCall .synchronize status), { d with pending := [] }, []⟩) ∨
      (d.ready = true ∧ d.faults.synchronize = none ∧
        synchronize v d = runLaunches d.pending v { d with
          pending := []
          stats := { d.stats with synchronizations := d.stats.synchronizations + 1 } }) := by
  have hcontext := requireContext_apply .synchronize v d
  cases hready : d.ready with
  | false =>
      rw [hready] at hcontext
      refine Or.inl ⟨rfl, ?_⟩
      unfold synchronize
      rw [Act.bind_of_error (by rw [hcontext]; rfl), hcontext]
  | true =>
      refine Or.inr ?_
      cases hfault : d.faults.synchronize with
      | none => exact Or.inr ⟨rfl, rfl, synchronize_of_ready hready hfault v⟩
      | some status =>
          rw [hready] at hcontext
          refine Or.inl ⟨rfl, status, rfl, ?_⟩
          unfold synchronize
          rw [Act.bind_of_ok (by rw [hcontext]; rfl), hcontext, Step.after_nil,
            Act.bind_of_ok (rfl : (Act.get v d).outcome = .ok d), hfault]
          rfl

theorem change_synchronize (v : Verbosity) (d : Emulated) :
    Change d none (synchronize v d).state := by
  rcases synchronize_cases v d with ⟨-, h⟩ | ⟨hready, status, -, h⟩ | ⟨hready, -, h⟩
  · rw [h]
    exact Change.rest
  · rw [h]
    exact Change.dropped hready
  · obtain ⟨m, hstate, hlayout, hnext⟩ := runLaunches_state d.pending v { d with
      pending := []
      stats := { d.stats with synchronizations := d.stats.synchronizations + 1 } }
    rw [h, hstate]
    exact Change.executed m hready hlayout hnext

end Emulated

/-! ### Sequences of operations -/

/-- What can be done to an emulated device. -/
inductive Operation where
  | call (c : Call)
  | register (name : String) (body : Kernel.Body)

namespace Operation

/-- The device that an operation leaves, however it ends. -/
def next (v : Verbosity) (d : Emulated) : Operation → Emulated
  | call (.select ordinal) => (Emulated.select ordinal v d).state
  | call .reset => (Emulated.reset v d).state
  | call (.allocate size) => (Emulated.allocate size v d).state
  | call (.free address) => (Emulated.free address v d).state
  | call (.copyToDevice address bytes) => (Emulated.copyToDevice address bytes v d).state
  | call (.copyFromDevice address size) => (Device.read address size v d).state
  | call (.launch kernel geometry args) => (Emulated.launch kernel geometry args v d).state
  | call .synchronize => (Emulated.synchronize v d).state
  | register name body => d.register name body

/-- The allocation that an operation makes, if it is one that succeeds. -/
def grant? (v : Verbosity) (d : Emulated) : Operation → Option Allocation
  | call (.allocate size) => Emulated.granted? size (Emulated.allocate size v d).outcome
  | _ => none

/-- **Every operation is a change.** -/
theorem change (v : Verbosity) (d : Emulated) (op : Operation) :
    Emulated.Change d (op.grant? v d) (op.next v d) := by
  match op with
  | call (.select ordinal) => exact Emulated.change_select ordinal v d
  | call .reset => exact Emulated.change_reset v d
  | call (.allocate size) => exact Emulated.change_allocate size v d
  | call (.free address) => exact Emulated.change_free address v d
  | call (.copyToDevice address bytes) => exact Emulated.change_copyToDevice address bytes v d
  | call (.copyFromDevice address size) =>
      exact (congrArg (Emulated.Change d none) (Emulated.read_state address size v d)).mpr .rest
  | call (.launch kernel geometry args) => exact Emulated.change_launch kernel geometry args v d
  | call .synchronize => exact Emulated.change_synchronize v d
  | register name body => exact Emulated.Change.registered name body

end Operation

namespace Emulated

/-- A device on which nothing has been done yet. -/
def fresh (deviceCount : UInt32) (capacity : Option UInt64) (faults : FaultPlan) : Emulated :=
  { deviceCount, capacity, faults }

example : new = fresh 1 none {} ∧ withoutDevices = fresh 0 none {} := ⟨rfl, rfl⟩

/-- A new device that refuses every free. -/
def refusing : Emulated :=
  fresh 1 none { free := some 700 }

/-- The device that a sequence of operations leaves. -/
def after (v : Verbosity) : List Operation → Emulated → Emulated
  | [], d => d
  | op :: ops, d => after v ops (op.next v d)

/-- The allocations that a sequence of operations makes, in order. -/
def grants (v : Verbosity) : List Operation → Emulated → List Allocation
  | [], _ => []
  | op :: ops, d => (op.grant? v d).toList ++ grants v ops (op.next v d)

/-- **What every change keeps, every sequence of operations keeps.**  The invariant may speak of the
allocations made so far. -/
theorem run_invariant {I : List Allocation → Emulated → Prop}
    (step : ∀ {past d g d'}, I past d → Change d g d' → I (past ++ g.toList) d')
    (v : Verbosity) (ops : List Operation) (past : List Allocation) {d : Emulated}
    (h : I past d) : I (past ++ grants v ops d) (after v ops d) := by
  induction ops generalizing past d with
  | nil =>
      rw [grants, List.append_nil]
      exact h
  | cons op ops ih =>
      rw [grants, ← List.append_assoc]
      exact ih _ (step h (op.change v d))

end Emulated

end Offload
