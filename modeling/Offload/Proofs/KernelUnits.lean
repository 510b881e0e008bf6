/-
**Kernel units on a willing device.**

A willing device has a context, no faults, and does not report its memory, so a session on it is
refused nothing that it may ask for.  What a program does there is told by three things: the memory
of the device, the launches that wait, and the list of the session.  Each operation takes them to
known new values, and a kernel unit is the sequence of its operations: it puts its environment and
room for its results behind what is there, runs its threads on that memory and takes the environment
away again.

Main definitions:

* `Offload.Emulated.Willing` — a device that refuses nothing;
* `Offload.Program.Yields` — a program ends with a value and leaves a workspace;
* `Offload.Memory.grown`, `Offload.Memory.without` — a memory with one more buffer, and with one
  less;
* `Offload.Emulated.extended` — a device with one more buffer;
* `Offload.Workspace.Serves` — a workspace on a willing device, seen as memory, queue and list;
* `Offload.KernelUnit.staged`, `Offload.KernelUnit.threads` — the memory on which the threads of a
  unit run, and what they make of it;
* `Offload.KernelUnit.remainder` — what is left to do for a unit once that memory is there;
* `Offload.KernelUnit.Fits` — a unit for which there is room.

Main results:

* `Offload.Workspace.Serves.allocSlice`, `Offload.Workspace.Serves.uploadSlice`,
  `Offload.Workspace.Serves.synchronize`, … — what each operation does there;
* `Offload.KernelUnit.launch_yields` — **what a kernel unit does there**;
* `Offload.KernelUnit.launch_of_error`, `Offload.KernelUnit.launch_of_uncounted` — how it fails and
  how it panics.
-/

import Offload.Proofs.RoundTrip
import Offload.Proofs.Emulated.Threads

set_option autoImplicit false

namespace Offload

/-! ### Memory -/

namespace Memory

/-- The address range that an allocation takes, without overflow. -/
def reserve (size : Nat) : Nat :=
  (max size 1 + alignment - 1) / alignment * alignment

/-- A memory with one more buffer. -/
def grown (m : Memory) (size : Nat) : Memory :=
  ⟨m.buffers ++ [⟨Address.ofNat m.frontier, Array.replicate size poison⟩],
    m.frontier + reserve size⟩

/-- A memory without the buffer at an address. -/
def without (m : Memory) (address : Address) : Memory :=
  { m with buffers := m.buffers.filter fun b => b.address ≠ address }

variable {m : Memory} {size : Nat} {address other : Address} {b : Buffer}

theorem reserve_pos (size : Nat) : 0 < reserve size := by
  have hdiv : 1 ≤ (max size 1 + alignment - 1) / alignment := by
    refine (Nat.le_div_iff_mul_le (by decide)).2 ?_
    have := Nat.le_max_right size 1
    omega
  exact Nat.mul_pos hdiv (by decide)

theorem span_eq (h : size ≤ largestBuffer) : span size = .ok (reserve size) := by
  have hlt : max size 1 + alignment < Word.bound := by
    have hlargest : largestBuffer + 1 + alignment < Word.bound := by decide
    omega
  unfold span
  rw [Word.add_eq_ok_iff.2 ⟨hlt, rfl⟩]
  rfl

/-- With room for it, a buffer is made. -/
theorem allocate_of_room (hsize : size ≤ largestBuffer)
    (hroom : m.frontier + reserve size < Word.bound) :
    m.allocate size = (.ok (Address.ofNat m.frontier), m.grown size) := by
  have hnext : (span size >>= Word.add m.frontier) = .ok (m.frontier + reserve size) := by
    rw [span_eq hsize]
    exact Word.add_eq_ok_iff.2 ⟨hroom, rfl⟩
  unfold allocate
  simp only [hnext, if_pos hsize]
  rfl

theorem frontier_grown (m : Memory) (size : Nat) :
    (m.grown size).frontier = m.frontier + reserve size :=
  frontier_of_pos (Nat.lt_of_lt_of_le (reserve_pos size) (Nat.le_add_left _ _))

theorem frontier_replace (m : Memory) (address : Address) (bytes : List UInt8) :
    (m.replace address bytes).frontier = m.frontier :=
  frontier_congr rfl

theorem find?_grown_of_some (h : m.find? address = some b) (size : Nat) :
    (m.grown size).find? address = some b :=
  find?_append rfl h

/-- The new buffer is found at the old frontier, if nothing was there. -/
theorem find?_grown_self (h : m.find? (Address.ofNat m.frontier) = none) (size : Nat) :
    (m.grown size).find? (Address.ofNat m.frontier) =
      some ⟨Address.ofNat m.frontier, Array.replicate size poison⟩ := by
  unfold find? at h ⊢
  rw [grown, List.find?_append, h]
  simp

theorem release_of_some (h : m.find? address = some b) :
    m.release address = some (m.without address) := by
  unfold release
  rw [h]
  rfl

theorem find?_without (h : other ≠ address) :
    (m.without other).find? address = m.find? address := by
  cases hfind : m.find? other with
  | some b => exact find?_release (release_of_some hfind) h
  | none =>
      have hsame : m.without other = m := by
        unfold without
        rw [List.filter_eq_self.2]
        intro b hb
        have hne : b.address ≠ other := by
          rintro rfl
          exact find?_eq_none_iff.1 hfind (List.mem_map_of_mem hb)
        simpa using hne
      rw [hsame]

end Memory

/-! ### Accesses of a kernel -/

namespace Memory

variable {m : Memory} {address : Address} {b : Buffer} {width index size : Nat}

theorem offset_of_le (h : index * width + width ≤ size) (hsize : size < Word.bound) :
    offset width index size = .ok (index * width) := by
  have hstart : Word.mul index width = .ok (index * width) :=
    Word.mul_eq_ok_iff.2 ⟨by omega, rfl⟩
  have hstop : Word.add (index * width) width = .ok (index * width + width) :=
    Word.add_eq_ok_iff.2 ⟨by omega, rfl⟩
  unfold offset
  rw [hstart, Outcome.ok_bind, hstop, Outcome.ok_bind, if_pos h]
  rfl

theorem offset_of_beyond (h : size < index * width + width)
    (hplace : index * width + width < Word.bound) :
    offset width index size = .error (.sizeMismatch (index * width + width) size) := by
  have hstart : Word.mul index width = .ok (index * width) :=
    Word.mul_eq_ok_iff.2 ⟨by omega, rfl⟩
  have hstop : Word.add (index * width) width = .ok (index * width + width) :=
    Word.add_eq_ok_iff.2 ⟨hplace, rfl⟩
  unfold offset
  rw [hstart, Outcome.ok_bind, hstop, Outcome.ok_bind, if_neg (Nat.not_le.2 h)]

theorem size_of_find? (h : m.find? address = some b) : m.size address = .ok b.bytes.size := by
  unfold Memory.size size?
  rw [h]
  rfl

/-- An element that lies inside a buffer can be read. -/
theorem read_of_find? (h : m.find? address = some b) (hle : index * width + width ≤ b.bytes.size)
    (hsize : b.bytes.size < Word.bound) :
    m.read address width index =
      .ok (b.bytes.extract (index * width) (index * width + width)).toList := by
  have hbytes : m.bytes address = .ok b.bytes := by
    unfold bytes
    rw [h]
  unfold read
  rw [hbytes, Outcome.ok_bind, offset_of_le hle hsize]
  rfl

/-- An element that lies inside a buffer can be written. -/
theorem write_of_find? {bytes : List UInt8} (h : m.find? address = some b)
    (hle : index * bytes.length + bytes.length ≤ b.bytes.size) (hsize : b.bytes.size < Word.bound) :
    m.write address index bytes =
      (.ok (), m.update address fun buffer => splice buffer (index * bytes.length) bytes) := by
  unfold write
  rw [size_of_find? h, Outcome.ok_bind, offset_of_le hle hsize]

/-- A place that is not found is reported to the writer, and nothing is written. -/
theorem write_of_error {bytes : List UInt8} {e : Failure} (h : m.find? address = some b)
    (hplace : offset bytes.length index b.bytes.size = .error e) :
    m.write address index bytes = (.error e, m) := by
  unfold write
  rw [size_of_find? h, Outcome.ok_bind, hplace]

end Memory

namespace Kernel

variable {α β : Type} {m m' : Memory}

section Ask

variable {q : Access} {next : Except Failure q.Answer → Kernel α}

theorem run_ask_of_ok {a : q.Answer} (h : m.answer q = (.ok a, m')) :
    run (.ask q next) m = run (next (.ok a)) m' := by
  rw [run, h]

theorem run_ask_of_error {e : Failure} (h : m.answer q = (.error e, m')) :
    run (.ask q next) m = run (next (.error e)) m' := by
  rw [run, h]

theorem run_ask_of_panic {p : Panic} (h : m.answer q = (.panic p, m')) :
    run (.ask q next) m = (.panic p, m') := by
  rw [run, h]

end Ask

/-- One kernel after another: the second one runs on the memory that the first one leaves. -/
theorem run_bind (k : Kernel α) (f : α → Kernel β) (m : Memory) :
    Kernel.run (k >>= f) m = match k.run m with
      | (.ok a, m') => (f a).run m'
      | (.error e, m') => (.error e, m')
      | (.panic p, m') => (.panic p, m') := by
  induction k generalizing m with
  | done a => rfl
  | fail e => rfl
  | panic p => rfl
  | ask q next ih =>
      rw [Dialogue.ask_bind]
      rcases hanswer : m.answer q with ⟨reply, left⟩
      cases reply with
      | ok r =>
          rw [run_ask_of_ok hanswer, run_ask_of_ok hanswer]
          exact ih (.ok r) left
      | error e =>
          rw [run_ask_of_error hanswer, run_ask_of_error hanswer]
          exact ih (.error e) left
      | panic p => rw [run_ask_of_panic hanswer, run_ask_of_panic hanswer]

/-- A kernel goes on after a part that succeeds. -/
theorem run_bind_of_ok {k : Kernel α} {f : α → Kernel β} {a : α} (h : k.run m = (.ok a, m')) :
    Kernel.run (k >>= f) m = (f a).run m' := by
  rw [run_bind, h]

/-- A kernel ends with a part that fails. -/
theorem run_bind_of_error {k : Kernel α} {f : α → Kernel β} {e : Failure}
    (h : k.run m = (.error e, m')) : Kernel.run (k >>= f) m = (.error e, m') := by
  rw [run_bind, h]

/-- A typed read is a read of bytes. -/
theorem run_read_eq [Pod α] (address : Address) (index : Nat) (m : Memory) :
    (read address index : Kernel α).run m =
      (m.read address (Pod.width α) index >>= fun bytes => pure (Pod.decode bytes), m) := by
  unfold read Dialogue.request
  rw [Dialogue.ask_bind, run, Memory.answer]
  cases m.read address (Pod.width α) index <;> rfl

/-- A typed write is a write of bytes. -/
theorem run_write_eq [Pod α] (address : Address) (index : Nat) (value : α) (m : Memory) :
    (write address index value).run m = m.write address index (Pod.encode value) := by
  unfold write Dialogue.request
  rw [run, Memory.answer]
  rcases m.write address index (Pod.encode value) with ⟨outcome, m'⟩
  cases outcome <;> rfl

theorem run_read [Pod α] {address : Address} {index : Nat} {value : α}
    (h : m.read address (Pod.width α) index = .ok (Pod.encode value)) :
    (read address index : Kernel α).run m = (.ok value, m) := by
  rw [run_read_eq, h, Outcome.ok_bind, Pod.decode_encode]
  rfl

theorem run_write [Pod α] {address : Address} {index : Nat} {value : α}
    (h : m.write address index (Pod.encode value) = (.ok (), m')) :
    (write address index value).run m = (.ok (), m') :=
  (run_write_eq address index value m).trans h

theorem run_write_of_error [Pod α] {address : Address} {index : Nat} {value : α} {e : Failure}
    (h : m.write address index (Pod.encode value) = (.error e, m')) :
    (write address index value).run m = (.error e, m') :=
  (run_write_eq address index value m).trans h

end Kernel

/-! ### Willing devices -/

namespace Emulated

/-- A device that has a context, no faults, and does not report its memory. -/
structure Willing (d : Emulated) : Prop where
  ready : d.ready = true
  faults : d.faults = {}
  capacity : d.capacity = none

variable {d d' : Emulated}

theorem Leads.willing (h : Leads d d') (hd : d.Willing) : d'.Willing :=
  ⟨h.ready hd.ready, h.faults.trans hd.faults,
    (congrArg Equipment.capacity h.equipment).trans hd.capacity⟩

theorem Leads.kernels (h : Leads d d') : d'.kernels = d.kernels :=
  congrArg Equipment.kernels h.equipment

/-- A device with one more buffer, at its frontier. -/
def extended (d : Emulated) (size : Nat) : Emulated :=
  { d with
    memory := d.memory.grown size
    stats := { d.stats with
      allocations := d.stats.allocations + 1
      allocOrder := d.stats.allocOrder ++ [Address.ofNat d.frontier] } }

/-- A device that is ready and not told to fail makes a buffer for which there is room. -/
theorem allocate_of_ready (hready : d.ready = true) (hfault : d.allocationFault = none) {size : Nat}
    (hsize : size ≤ Memory.largestBuffer) (hroom : d.frontier + Memory.reserve size < Word.bound)
    (v : Verbosity) :
    (allocate size v d).outcome = .ok (Address.ofNat d.frontier) ∧
      (allocate size v d).state = d.extended size := by
  rw [guarded_of_ready (rfl : allocate size = guarded .allocate allocationFault _) hready hfault]
  have hmemory := Memory.allocate_of_room hsize hroom
  have hpart : Act.onPart Emulated.memory (fun m d => { d with memory := m })
      (Act.update fun m => m.allocate size) v d =
        ⟨.ok (Address.ofNat d.frontier), { d with memory := d.memory.grown size }, []⟩ := by
    change (⟨(d.memory.allocate size).1, { d with memory := (d.memory.allocate size).2 }, []⟩ :
      Step Emulated Address) = _
    rw [hmemory]
    rfl
  rw [Act.bind_of_ok (by rw [hpart]), hpart]
  exact ⟨rfl, rfl⟩

theorem Willing.allocate (h : d.Willing) {size : Nat} (hsize : size ≤ Memory.largestBuffer)
    (hroom : d.frontier + Memory.reserve size < Word.bound) (v : Verbosity) :
    (Emulated.allocate size v d).outcome = .ok (Address.ofNat d.frontier) ∧
      (Emulated.allocate size v d).state = d.extended size := by
  have hfault : d.allocationFault = none := by
    unfold allocationFault
    rw [h.faults]
    rfl
  exact allocate_of_ready h.ready hfault hsize hroom v

theorem Willing.launch (h : d.Willing) {kernel : String} {body : Kernel.Body}
    (hbody : d.body? kernel = some body) (geometry : Geometry) (args : List Arg) (v : Verbosity) :
    (Emulated.launch kernel geometry args v d).outcome = .ok () ∧
      ∃ stats, (Emulated.launch kernel geometry args v d).state =
        { d with pending := d.pending ++ [⟨kernel, geometry, args⟩], stats } := by
  have hfault : d.faults.launch = none := by
    rw [h.faults]
  rw [guarded_of_ready (rfl : Emulated.launch kernel geometry args =
    guarded .launch (fun d => d.faults.launch) _) h.ready hfault, hbody]
  exact ⟨rfl, _, rfl⟩

theorem runThreads_one {body : Thread → Kernel Unit} {geometry : Geometry} {first : Nat}
    {m m' : Memory} (h : (body (geometry.thread first)).run m = (.ok (), m')) :
    runThreads body geometry 1 first m = (.ok (), m') := by
  rw [runThreads, h]
  rfl

/-- A launch that waits alone is run, and the synchronization ends as its threads do. -/
theorem Willing.synchronize (h : d.Willing) {l : Launch} (hqueue : d.pending = [l])
    {body : Kernel.Body} (hbody : d.body? l.kernel = some body) {ending : Outcome Unit}
    {m : Memory}
    (hrun : runThreads (fun t => body t l.args) l.geometry l.geometry.count 0 d.memory =
      (ending, m))
    (v : Verbosity) :
    (Emulated.synchronize v d).outcome = ending ∧
      ∃ stats, (Emulated.synchronize v d).state =
        { d with memory := m, pending := [], stats } := by
  have hfault : d.faults.synchronize = none := by
    rw [h.faults]
  obtain ⟨houtcome, hstate⟩ := runLaunch_of_body (d := d.drained) hbody v
  have hlaunch : l.run body d.drained.memory = (ending, m) := hrun
  rw [hlaunch] at houtcome hstate
  rw [synchronize_of_ready h.ready hfault, hqueue]
  change (runLaunches [l] v d.drained).outcome = ending ∧
    ∃ stats, (runLaunches [l] v d.drained).state = { d with memory := m, pending := [], stats }
  unfold runLaunches
  refine ⟨?_, d.drained.stats, ?_⟩
  · cases ending with
    | ok u =>
        rw [Act.bind_of_ok houtcome]
        rfl
    | error e => rw [Act.bind_of_error houtcome]
    | panic p => rw [Act.bind_of_panic houtcome]
  · rw [Act.bind_state fun _ _ => rfl, hstate]
    rfl

theorem Willing.copyToDevice (h : d.Willing) {address : Address} {bytes : List UInt8}
    (hsize : d.memory.size? address = some bytes.length) (v : Verbosity) :
    (Emulated.copyToDevice address bytes v d).outcome = .ok () ∧
      (Emulated.copyToDevice address bytes v d).state =
        { d with memory := d.memory.replace address bytes } := by
  have hok := copyToDevice_of_live h.ready hsize v
  rw [h.faults] at hok
  rcases copyToDevice_cases address bytes v d with ⟨e, herror, -⟩ | ⟨-, -, -, hstate⟩
  · rw [herror] at hok
    cases hok
  · exact ⟨hok, hstate⟩

theorem Willing.free (h : d.Willing) {address : Address} (hlive : address ∈ d.live)
    (v : Verbosity) :
    (Emulated.free address v d).outcome = .ok () ∧
      ∃ stats, (Emulated.free address v d).state =
        { d with memory := d.memory.without address, stats } := by
  have hok := free_of_live h.ready hlive v
  rw [h.faults] at hok
  rcases free_cases address v d with ⟨e, herror, -⟩ | ⟨memory, -, hrelease, -, hstate⟩
  · rw [herror] at hok
    cases hok
  · cases hfind : d.memory.find? address with
    | none => exact absurd hlive (Memory.find?_eq_none_iff.1 hfind)
    | some b =>
        rw [Memory.release_of_some hfind] at hrelease
        cases hrelease
        exact ⟨hok, _, hstate⟩

end Emulated

/-! ### Programs that succeed -/

namespace Program

variable {δ τ α β : Type} [Device δ]

/-- A program ends with a value and leaves a workspace. -/
def Yields (p : Program τ α) (v : Verbosity) (w : Workspace δ τ) (a : α) (w' : Workspace δ τ) :
    Prop :=
  (p.perform v w).outcome = .ok a ∧ (p.perform v w).state = w'

variable {v : Verbosity} {w w' w'' : Workspace δ τ} {a : α} {b : β}

theorem yields_pure (a : α) : Yields (pure a) v w a w :=
  ⟨rfl, rfl⟩

/-- After a part that succeeds, a program ends as the rest of it does. -/
theorem Yields.onward {p : Program τ α} {f : α → Program τ β} {x : Outcome β} {s : Workspace δ τ}
    (hp : p.Yields v w a w')
    (hf : ((f a).perform v w').outcome = x ∧ ((f a).perform v w').state = s) :
    (Program.perform (p >>= f) v w).outcome = x ∧ (Program.perform (p >>= f) v w).state = s := by
  obtain ⟨houtcome, rfl⟩ := hp
  exact ⟨(bind_outcome_of_ok houtcome).trans hf.1, (bind_state_of_ok houtcome).trans hf.2⟩

theorem Yields.bind {p : Program τ α} {f : α → Program τ β} (hp : p.Yields v w a w')
    (hf : (f a).Yields v w' b w'') : Yields (p >>= f) v w b w'' :=
  hp.onward hf

theorem yields_request {q : Request τ} {a : q.Answer}
    (houtcome : (Workspace.answer q v w).outcome = .ok a)
    (hstate : (Workspace.answer q v w).state = w') : Yields (Dialogue.request q) v w a w' := by
  rw [Yields, perform_request]
  exact ⟨houtcome, hstate⟩

theorem yields_note (level : Level) (message : String) (fields : List Field) :
    Yields (note level message fields) v w () w :=
  yields_request rfl (Act.note_state ..)

end Program

/-! ### Sessions on a willing device -/

namespace Session

variable {s : Session Emulated} {v : Verbosity}

/-- A device that does not report its memory is not checked for room. -/
theorem ensureFits_of_willing (h : s.device.Willing) (size : Nat) :
    (ensureFits size v s).outcome = .ok () := by
  have hinfo : Device.memoryInfo s.device = .ok none := by
    change Emulated.memoryInfo _ = _
    unfold Emulated.memoryInfo
    rw [h.capacity]
  unfold ensureFits
  rw [Act.bind_of_ok rfl, Step.after_outcome]
  simp only [Act.get_apply]
  split
  · rw [hinfo]
    rfl
  · rfl

end Session

namespace Workspace

/-- A workspace on a willing device, seen as its memory, the launches that wait and the list of the
session. -/
structure Serves {τ : Type} (config : Config) (kernels : List (String × Kernel.Body))
    (w : Workspace Emulated τ) (m : Memory) (queue : List Launch) (tracked : List Allocation) :
    Prop where
  willing : w.session.device.Willing
  agrees : ∃ old made, old.Ordered ∧ w.session.Agrees old made
  config : w.session.config = config
  kernels : w.session.device.kernels = kernels
  memory : w.session.device.memory = m
  queue : w.session.device.pending = queue
  tracked : w.session.tracked = tracked

namespace Serves

variable {τ : Type} {config : Config} {kernels : List (String × Kernel.Body)} {v : Verbosity}
  {w w' : Workspace Emulated τ} {m m' : Memory} {queue : List Launch} {tracked : List Allocation}

theorem held (h : w.Serves config kernels m queue tracked) : w.session.Held := by
  obtain ⟨old, made, -, hagrees⟩ := h.agrees
  exact hagrees.held

theorem parts (h : w.Serves config kernels m queue tracked) :
    w.session.device.memory = m ∧ w.session.device.pending = queue ∧ w.session.tracked = tracked :=
  ⟨h.memory, h.queue, h.tracked⟩

theorem body? (h : w.Serves config kernels m queue tracked) {kernel : String} {body : Kernel.Body}
    (hbody : kernels.lookup kernel = some body) : w.session.device.body? kernel = some body := by
  unfold Emulated.body?
  rw [h.kernels]
  exact hbody

/-- Nothing lies at the frontier. -/
theorem find?_frontier (h : w.Serves config kernels m queue tracked) :
    m.find? (Address.ofNat m.frontier) = none := by
  have hcounted := h.held.ordered.counted
  rw [← h.memory, Memory.find?_eq_none_iff]
  intro hlive
  have hlt := hcounted.live_lt _ hlive
  have heq := hcounted.toNat_frontier
  change (Address.ofNat w.session.device.memory.frontier).toNat = _ at heq
  rw [heq] at hlt
  exact Nat.lt_irrefl _ hlt

/-- What the session owns is live. -/
theorem mem_live (h : w.Serves config kernels m queue tracked) {a : Allocation}
    (ha : a ∈ tracked) : a.address ∈ w.session.device.live := by
  rw [← h.tracked] at ha
  rw [← Emulated.map_address_layout]
  exact List.mem_map_of_mem (h.held.sublist.subset ha)

/-- What the session owns lies below the frontier. -/
theorem ne_frontier (h : w.Serves config kernels m queue tracked) {a : Allocation}
    (ha : a ∈ tracked) : a.address ≠ Address.ofNat m.frontier := by
  intro heq
  have hnone := h.find?_frontier
  rw [← heq, ← h.memory, Memory.find?_eq_none_iff] at hnone
  exact hnone (h.mem_live ha)

/-- Of an allocation at the frontier nothing stays on the list once it is erased. -/
theorem eraseP_frontier (h : w.Serves config kernels m queue tracked) (size : Nat)
    (rest : List Allocation) :
    (tracked ++ [Allocation.mk (Address.ofNat m.frontier) size] ++ rest).eraseP
      (fun a => a.address = Address.ofNat m.frontier) = tracked ++ rest := by
  rw [List.append_assoc, List.eraseP_append_right]
  · simp
  · intro a ha
    simpa using h.ne_frontier ha

/-- The next workspace, after a program that succeeds. -/
theorem next {α : Type} {p : Program τ α} {a : α} {d : Emulated} {l : List Allocation} {n : Nat}
    (h : w.Serves config kernels m queue tracked) (hp : p.Yields v w a w')
    (hsession : w'.session = ⟨d, w.session.config, l, n⟩) :
    w'.Serves config kernels d.memory d.pending l := by
  obtain ⟨-, rfl⟩ := hp
  have hleads := p.leads_perform v w
  obtain ⟨old, made, hold, hagrees⟩ := h.agrees
  obtain ⟨later, hlater⟩ := p.agrees_perform hold v hagrees
  exact ⟨hleads.willing h.willing, ⟨old, _, hold, hlater⟩,
    (congrArg Session.config hsession).trans h.config, hleads.kernels.trans h.kernels,
    congrArg (fun s => s.device.memory) hsession, congrArg (fun s => s.device.pending) hsession,
    congrArg Session.tracked hsession⟩

/-- An array is put behind what is there. -/
theorem allocSlice {α : Type} [Pod α] (h : w.Serves config kernels m queue tracked) {length : Nat}
    (hpos : length * Pod.width α ≠ 0) (hsize : length * Pod.width α ≤ Memory.largestBuffer)
    (hroom : m.frontier + Memory.reserve (length * Pod.width α) < Word.bound) :
    ∃ w', (Program.allocSlice α length).Yields v w ⟨Address.ofNat m.frontier, length⟩ w' ∧
      w'.Serves config kernels (m.grown (length * Pod.width α)) queue
        (tracked ++ [⟨Address.ofNat m.frontier, length * Pod.width α⟩]) := by
  obtain ⟨rfl, rfl, rfl⟩ := h.parts
  obtain ⟨hreply, hdevice⟩ := h.willing.allocate hsize hroom v
  obtain ⟨houtcome, hstate⟩ :=
    h.held.allocate hpos (Session.ensureFits_of_willing h.willing _) hreply
  rw [hdevice] at hstate
  have hbound : length * Pod.width α < Word.bound :=
    Nat.lt_of_le_of_lt hsize (by decide)
  have hyields : (Program.allocSlice α length).Yields v w
      ⟨Address.ofNat w.session.device.memory.frontier, length⟩
      { w with session := (Session.allocate (length * Pod.width α) v w.session).state } := by
    unfold Program.allocSlice
    rw [if_pos hbound]
    exact (Program.yields_request (q := .allocate (length * Pod.width α)) houtcome rfl).bind
      (Program.yields_pure _)
  exact ⟨_, hyields, h.next hyields hstate⟩

/-- An array is overwritten. -/
theorem write {α : Type} [Pod α] (h : w.Serves config kernels m queue tracked) {s : Slice α}
    (hsize : m.size? s.address = some (s.length * Pod.width α)) {host : List α}
    (hlength : host.length = s.length) :
    ∃ w', (Program.write s host).Yields v w () w' ∧
      w'.Serves config kernels (m.replace s.address (Pod.encodeAll host)) queue tracked := by
  obtain ⟨rfl, rfl, rfl⟩ := h.parts
  rw [← hlength, ← Pod.length_encodeAll] at hsize
  obtain ⟨hreply, hdevice⟩ := h.willing.copyToDevice hsize v
  have hyields : (Program.write s host).Yields v w ()
      { w with session := (Session.store s.address (Pod.encodeAll host) v w.session).state } := by
    unfold Program.write
    rw [if_pos hlength]
    exact Program.yields_request hreply rfl
  have hstate := congrArg (fun d => { w.session with device := d }) hdevice
  exact ⟨_, hyields, h.next hyields hstate⟩

/-- A copy of a host array is put behind what is there. -/
theorem uploadSlice {α : Type} [Pod α] (h : w.Serves config kernels m queue tracked)
    (host : List α) (hpos : host.length * Pod.width α ≠ 0)
    (hsize : host.length * Pod.width α ≤ Memory.largestBuffer)
    (hroom : m.frontier + Memory.reserve (host.length * Pod.width α) < Word.bound) :
    ∃ w', (Program.uploadSlice host).Yields v w ⟨Address.ofNat m.frontier, host.length⟩ w' ∧
      w'.Serves config kernels ((m.grown (host.length * Pod.width α)).replace
          (Address.ofNat m.frontier) (Pod.encodeAll host)) queue
        (tracked ++ [⟨Address.ofNat m.frontier, host.length * Pod.width α⟩]) := by
  obtain ⟨w₁, hallocated, h₁⟩ := h.allocSlice (v := v) hpos hsize hroom
  have hsize₁ : (m.grown (host.length * Pod.width α)).size? (Address.ofNat m.frontier) =
      some (host.length * Pod.width α) := by
    unfold Memory.size?
    rw [Memory.find?_grown_self h.find?_frontier, Option.map_some, Array.size_replicate]
  obtain ⟨w₂, hwritten, h₂⟩ := h₁.write (v := v) (s := ⟨Address.ofNat m.frontier, host.length⟩)
    hsize₁ rfl
  exact ⟨w₂, hallocated.bind (hwritten.bind (Program.yields_pure _)), h₂⟩

/-- A copy of a host value is put behind what is there. -/
theorem upload {α : Type} [Pod α] (h : w.Serves config kernels m queue tracked) (value : α)
    (hpos : Pod.width α ≠ 0) (hsize : Pod.width α ≤ Memory.largestBuffer)
    (hroom : m.frontier + Memory.reserve (Pod.width α) < Word.bound) :
    ∃ w', (Program.upload value).Yields v w ⟨Address.ofNat m.frontier, 1⟩ w' ∧
      w'.Serves config kernels ((m.grown (Pod.width α)).replace (Address.ofNat m.frontier)
        (Pod.encode value)) queue (tracked ++ [⟨Address.ofNat m.frontier, Pod.width α⟩]) := by
  have hwidth : [value].length * Pod.width α = Pod.width α := Nat.one_mul _
  have hencode : Pod.encodeAll [value] = Pod.encode value := List.append_nil _
  obtain ⟨w', hyields, h'⟩ := h.uploadSlice (v := v) [value] (by rw [hwidth]; exact hpos)
    (by rw [hwidth]; exact hsize) (by rw [hwidth]; exact hroom)
  rw [hwidth, hencode] at h'
  exact ⟨w', hyields, h'⟩

/-- A registered kernel is queued. -/
theorem launch (h : w.Serves config kernels m queue tracked) {kernel : String}
    {body : Kernel.Body} (hbody : kernels.lookup kernel = some body) {geometry : Geometry}
    (hthreads : config.debug = true → v.admits .info = true → ∃ n, geometry.totalThreads = .ok n)
    (args : List Arg) :
    ∃ w', (Program.launch kernel geometry args).Yields v w () w' ∧
      w'.Serves config kernels m (queue ++ [⟨kernel, geometry, args⟩]) tracked := by
  obtain ⟨rfl, rfl, rfl⟩ := h.parts
  obtain ⟨hreply, stats, hdevice⟩ := h.willing.launch (h.body? hbody) geometry args v
  rw [← h.config] at hthreads
  obtain ⟨houtcome, hstate⟩ := Session.launch_of_counted (v := v) hthreads kernel args
  replace hstate := hstate.trans (congrArg (fun d => { w.session with device := d }) hdevice)
  have hyields : (Program.launch kernel geometry args).Yields v w () { w with
      session := (Session.launch kernel geometry args v w.session).state } :=
    Program.yields_request (houtcome.trans hreply) rfl
  exact ⟨_, hyields, h.next hyields hstate⟩

/-- Waiting for the one launch in the queue ends as its threads do. -/
theorem synchronize_outcome {l : Launch} (h : w.Serves config kernels m [l] tracked)
    {body : Kernel.Body} (hbody : kernels.lookup l.kernel = some body) :
    (Program.perform Program.synchronize v w).outcome =
      (Emulated.runThreads (fun t => body t l.args) l.geometry l.geometry.count 0 m).1 := by
  obtain ⟨rfl, hqueue, rfl⟩ := h.parts
  rw [Program.synchronize, Program.perform_request]
  exact (h.willing.synchronize hqueue (h.body? hbody) rfl v).1

/-- The one launch that waits is run. -/
theorem synchronize {l : Launch} (h : w.Serves config kernels m [l] tracked) {body : Kernel.Body}
    (hbody : kernels.lookup l.kernel = some body)
    (hrun : Emulated.runThreads (fun t => body t l.args) l.geometry l.geometry.count 0 m =
      (.ok (), m')) :
    ∃ w', (Program.synchronize).Yields v w () w' ∧ w'.Serves config kernels m' [] tracked := by
  obtain ⟨rfl, hqueue, rfl⟩ := h.parts
  obtain ⟨hreply, stats, hdevice⟩ := h.willing.synchronize hqueue (h.body? hbody) hrun v
  have hyields : (Program.synchronize).Yields v w () { w with
      session := (Session.synchronize v w.session).state } :=
    Program.yields_request hreply rfl
  have hstate := congrArg (fun d => { w.session with device := d }) hdevice
  exact ⟨_, hyields, h.next hyields hstate⟩

/-- An allocation of the session is freed. -/
theorem free (h : w.Serves config kernels m queue tracked) {a : Allocation} (ha : a ∈ tracked) :
    ∃ w', (Program.free a.address).Yields v w () w' ∧
      w'.Serves config kernels (m.without a.address) queue
        (tracked.eraseP fun b => b.address = a.address) := by
  obtain ⟨rfl, rfl, rfl⟩ := h.parts
  obtain ⟨hreply, stats, hdevice⟩ := h.willing.free (h.mem_live ha) v
  obtain ⟨houtcome, hstate⟩ := Session.free_of_owned
    ((Session.owns_iff _ _).2 (List.mem_map_of_mem ha)) v
  have hdevice : (Device.free a.address v w.session.device).state = _ := hdevice
  rw [hdevice] at hstate
  have hyields : (Program.free a.address).Yields v w () { w with
      session := (Session.free a.address v w.session).state } :=
    Program.yields_request (houtcome.trans hreply) rfl
  exact ⟨_, hyields, h.next hyields hstate⟩

/-- An array is read. -/
theorem download {α : Type} [Pod α] (h : w.Serves config kernels m queue tracked) {s : Slice α}
    {b : Buffer} (hfind : m.find? s.address = some b)
    (hsize : b.bytes.size = s.length * Pod.width α) (hsmall : b.bytes.size ≤ Word.largestBlock) :
    ∃ w', (Program.download s).Yields v w (Pod.decodeAll s.length b.bytes.toList) w' ∧
      w'.Serves config kernels m queue tracked := by
  have hbytes : w.session.device.memory.bytes s.address = .ok b.bytes := by
    unfold Memory.bytes
    rw [h.memory, hfind]
  have houtcome := Program.fetch_outcome h.willing.ready hbytes hsize hsmall v
  rw [h.willing.faults] at houtcome
  have hstate : ((Program.fetch s.address (s.length * Pod.width α)).perform v w).state = w := by
    rw [Program.fetch, Program.perform_request]
    exact congrArg (fun s => { w with session := s }) (Session.fetch_state _ _ v w.session)
  exact ⟨w, Program.Yields.bind ⟨houtcome, hstate⟩ (Program.yields_pure _), h⟩

end Serves

end Workspace

/-! ### Units -/

namespace KernelUnit

variable {τ ε ρ : Type} [Pod ε] [Pod ρ]

/-- Where a unit puts its environment. -/
def input (m : Memory) : Address :=
  Address.ofNat m.frontier

/-- Where a unit has its results. -/
def output (ε : Type) [Pod ε] (m : Memory) : Address :=
  Address.ofNat (m.frontier + Memory.reserve (Pod.width ε))

/-- The memory on which the threads of a unit run: the environment and room for the results lie
behind what was there. -/
def staged (u : KernelUnit ε ρ) (env : ε) (m : Memory) : Memory :=
  ((m.grown (Pod.width ε)).replace (input m) (Pod.encode env)).grown (u.count * Pod.width ρ)

/-- The threads of a unit, on a memory. -/
def threads (u : KernelUnit ε ρ) (body : Kernel.Body) (env : ε) (m : Memory) :
    Outcome Unit × Memory :=
  Emulated.runThreads (fun t => body t [.pointer (input m), .pointer (output ε m)]) u.geometry
    u.geometry.count 0 (u.staged env m)

/-- A unit that asks for something, and for no more than there is room for behind a memory. -/
structure Fits (u : KernelUnit ε ρ) (m : Memory) : Prop where
  environment : Pod.width ε ≠ 0
  environment_le : Pod.width ε ≤ Memory.largestBuffer
  results : u.count * Pod.width ρ ≠ 0
  results_le : u.count * Pod.width ρ ≤ Memory.largestBuffer
  room : m.frontier + Memory.reserve (Pod.width ε) + Memory.reserve (u.count * Pod.width ρ) <
    Word.bound

theorem Fits.count_ne_zero {u : KernelUnit ε ρ} {m : Memory} (h : u.Fits m) : u.count ≠ 0 := by
  intro hzero
  refine h.results ?_
  rw [hzero, Nat.zero_mul]

section Placed

variable {config : Config} {kernels : List (String × Kernel.Body)} {w : Workspace Emulated τ}
  {m : Memory} {queue : List Launch} {tracked : List Allocation}

/-- The environment and the results lie apart. -/
theorem Fits.input_ne_output {u : KernelUnit ε ρ} (h : u.Fits m) : input m ≠ output ε m := by
  intro heq
  have hroom := h.room
  have hpos := Memory.reserve_pos (Pod.width ε)
  have hnat := congrArg Address.toNat heq
  have hinput : m.frontier < Word.bound := by omega
  have houtput : m.frontier + Memory.reserve (Pod.width ε) < Word.bound := by omega
  unfold input output at hnat
  rw [Address.toNat_ofNat hinput, Address.toNat_ofNat houtput] at hnat
  omega

/-- The threads of a unit find its environment. -/
theorem find?_input (h : w.Serves config kernels m queue tracked) (u : KernelUnit ε ρ) (env : ε) :
    (u.staged env m).find? (input m) = some ⟨input m, (Pod.encode env).toArray⟩ := by
  have hgrown := Memory.find?_grown_self h.find?_frontier (Pod.width ε)
  exact Memory.find?_grown_of_some (Memory.find?_update_self hgrown _) _

/-- The threads of a unit can read its environment. -/
theorem read_input (h : w.Serves config kernels m queue tracked) {u : KernelUnit ε ρ}
    (hfits : u.Fits m) (env : ε) :
    (u.staged env m).read (input m) (Pod.width ε) 0 = .ok (Pod.encode env) := by
  have hsize : (Pod.encode env).toArray.size = Pod.width ε := Pod.length_encode env
  have hsmall : Pod.width ε < Word.bound :=
    Nat.lt_of_le_of_lt hfits.environment_le (by decide)
  have htake : (Pod.encode env).take (Pod.width ε) = Pod.encode env :=
    List.take_of_length_le (Nat.le_of_eq (Pod.length_encode env))
  rw [Memory.read_of_find? (find?_input h u env) (by simp) (by rw [hsize]; exact hsmall)]
  simp only [Nat.zero_mul, Nat.zero_add, List.extract_toArray, List.extract_eq_take_drop,
    Nat.sub_zero, List.drop_zero, htake]

/-- The threads of a unit find room for its results. -/
theorem find?_output (h : w.Serves config kernels m queue tracked) {u : KernelUnit ε ρ}
    (hfits : u.Fits m) (env : ε) :
    (u.staged env m).find? (output ε m) =
      some ⟨output ε m, Array.replicate (u.count * Pod.width ρ) Memory.poison⟩ := by
  have hroom := hfits.room
  obtain ⟨w₁, -, h₁⟩ := h.upload (v := .off) env hfits.environment hfits.environment_le (by omega)
  have hfind := Memory.find?_grown_self h₁.find?_frontier (u.count * Pod.width ρ)
  rw [Memory.frontier_replace, Memory.frontier_grown] at hfind
  exact hfind

end Placed

/-- What a unit does once its environment and the room for its results are there. -/
def remainder (u : KernelUnit ε ρ) (m : Memory) : Program τ (Slice ρ) := do
  Program.launch u.kernel u.geometry [.pointer (input m), .pointer (output ε m)]
  Program.synchronize
  Program.free (input m)
  pure ⟨output ε m, u.count⟩

section Staged

variable {u : KernelUnit ε ρ} {env : ε} {config : Config} {kernels : List (String × Kernel.Body)}
  {v : Verbosity} {w : Workspace Emulated τ} {m ran : Memory} {tracked : List Allocation}
  {body : Kernel.Body}

/-- **A kernel unit puts its environment and room for its results behind what is there**, and goes
on from there. -/
theorem launch_staged (h : w.Serves config kernels m [] tracked) (hfits : u.Fits m) (env : ε)
    (v : Verbosity) :
    ∃ w', w'.Serves config kernels (u.staged env m) [] (tracked ++ [⟨input m, Pod.width ε⟩] ++
        [⟨output ε m, u.count * Pod.width ρ⟩]) ∧
      ((u.launch env).perform v w).outcome = ((u.remainder m).perform v w').outcome ∧
      ((u.launch env).perform v w).state = ((u.remainder m).perform v w').state := by
  have hroom := hfits.room
  obtain ⟨w₁, hupload, h₁⟩ := h.upload (v := v) env hfits.environment hfits.environment_le
    (by omega)
  obtain ⟨w₂, halloc, h₂⟩ := h₁.allocSlice (α := ρ) (v := v) hfits.results hfits.results_le
    (by rw [Memory.frontier_replace, Memory.frontier_grown]; exact hroom)
  rw [Memory.frontier_replace, Memory.frontier_grown] at halloc h₂
  refine ⟨w₂, h₂, ?_⟩
  unfold launch
  rw [if_neg hfits.count_ne_zero]
  exact hupload.onward (halloc.onward ((Program.yields_note ..).onward ⟨rfl, rfl⟩))

/-- **What a kernel unit does**: its threads run on the memory with the environment and the room for
the results behind it, then the environment is taken away. -/
theorem launch_yields (h : w.Serves config kernels m [] tracked) (hfits : u.Fits m)
    (hbody : kernels.lookup u.kernel = some body)
    (hthreads : config.debug = true → v.admits .info = true →
      ∃ n, u.geometry.totalThreads = .ok n)
    (hrun : u.threads body env m = (.ok (), ran)) :
    ∃ w', (u.launch env).Yields v w ⟨output ε m, u.count⟩ w' ∧
      w'.Serves config kernels (ran.without (input m)) []
        (tracked ++ [⟨output ε m, u.count * Pod.width ρ⟩]) := by
  obtain ⟨w₂, h₂, houtcome, hstate⟩ := launch_staged h hfits env v
  obtain ⟨w₃, hlaunch, h₃⟩ := h₂.launch (v := v) hbody hthreads
    [.pointer (input m), .pointer (output ε m)]
  obtain ⟨w₄, hsynchronize, h₄⟩ := h₃.synchronize (v := v) hbody hrun
  obtain ⟨w₅, hfree, h₅⟩ := h₄.free (v := v) (a := ⟨input m, Pod.width ε⟩) (by simp)
  have herased := h.eraseP_frontier (Pod.width ε) [⟨output ε m, u.count * Pod.width ρ⟩]
  have hrest : (u.remainder m).Yields v w₂ ⟨output ε m, u.count⟩ w₅ :=
    hlaunch.bind <| hsynchronize.bind <| hfree.bind <| Program.yields_pure _
  exact ⟨w₅, ⟨houtcome.trans hrest.1, hstate.trans hrest.2⟩, herased ▸ h₅⟩

/-- A kernel unit fails if its threads do. -/
theorem launch_of_error (h : w.Serves config kernels m [] tracked) (hfits : u.Fits m)
    (hbody : kernels.lookup u.kernel = some body)
    (hthreads : config.debug = true → v.admits .info = true →
      ∃ n, u.geometry.totalThreads = .ok n)
    {e : Failure} (hrun : (u.threads body env m).1 = .error e) :
    ((u.launch env).perform v w).outcome = .error e := by
  obtain ⟨w₂, h₂, houtcome, -⟩ := launch_staged h hfits env v
  obtain ⟨w₃, hlaunch, h₃⟩ := h₂.launch (v := v) hbody hthreads
    [.pointer (input m), .pointer (output ε m)]
  have hfailed : (Program.perform Program.synchronize v w₃).outcome = .error e :=
    (h₃.synchronize_outcome hbody).trans hrun
  rw [houtcome, remainder, Program.bind_outcome_of_ok hlaunch.1, hlaunch.2, Program.perform_bind,
    Act.bind_of_error hfailed]

/-- A kernel unit panics in a debugging session that keeps its events and cannot count its
threads. -/
theorem launch_of_uncounted (h : w.Serves config kernels m [] tracked) (hfits : u.Fits m)
    (hdebug : config.debug = true) (hkept : v.admits .info = true) {p : Panic}
    (hthreads : u.geometry.totalThreads = .panic p) (env : ε) :
    ((u.launch env).perform v w).outcome = .panic p := by
  obtain ⟨w₂, h₂, houtcome, -⟩ := launch_staged h hfits env v
  rw [← h₂.config] at hdebug
  have hpanic : (Program.perform (Program.launch u.kernel u.geometry
      [.pointer (input m), .pointer (output ε m)]) v w₂).outcome = .panic p := by
    rw [Program.launch, Program.perform_request]
    exact congrArg Step.outcome (Session.launch_of_uncounted hdebug hkept hthreads ..)
  rw [houtcome, remainder, Program.perform_bind, Act.bind_of_panic hpanic]

end Staged

end KernelUnit

end Offload
