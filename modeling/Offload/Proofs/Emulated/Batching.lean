/-
**One synchronization or many.**

A launch only puts a kernel in the queue of a device; the kernel runs when the caller waits for it.
A caller may wait after each launch and stop when a kernel fails, or queue everything and wait once.
Both come to the same.  Launches queue up in order and touch no memory, and the one synchronization
runs them in that order, from the memory that the first launch found.  If a kernel fails in the
middle, those before it have run, the threads before the failing one have left their writes, and
what lies behind it in the queue is dropped, as the other caller never launches it.

What the two callers have in common is `Emulated.runAll`, the effect of a list of launches on a
memory.  Only the counters of the device tell them apart.

Main definitions:

* `Offload.Emulated.launchAll`, `Offload.Emulated.batched` — launches, and one synchronization
  behind them;
* `Offload.Emulated.eager` — a synchronization behind each launch;
* `Offload.Emulated.runAll` — what launches do to a memory;
* `Offload.Emulated.Idle` — a device that waits for launches.

Main results:

* `Offload.Emulated.launchAll_apply` — launches queue up and touch no memory;
* `Offload.Emulated.batched_eq`, `Offload.Emulated.eager_eq` — what the two callers do;
* `Offload.Emulated.batched_agrees_with_eager` — **it does not matter how often one waits**.
-/

import Offload.Proofs.Emulated.Bookkeeping
import Offload.Proofs.Emulated.Threads

set_option autoImplicit false

namespace Offload

namespace Emulated

/-! ### Two callers -/

/-- Queues launches, one after the other. -/
def launchAll : List Launch → Act Emulated Unit
  | [] => pure ()
  | l :: rest => do
      launch l.kernel l.geometry l.args
      launchAll rest

/-- Queues launches and waits for all of them. -/
def batched (ls : List Launch) : Act Emulated Unit := do
  launchAll ls
  synchronize

/-- Waits for each launch before the next one, up to the first one that does not succeed. -/
def eager : List Launch → Act Emulated Unit
  | [] => pure ()
  | l :: rest => do
      launch l.kernel l.geometry l.args
      synchronize
      eager rest

/-- What launches do to a memory, up to the first one that does not succeed. -/
def runAll (kernels : List (String × Kernel.Body)) : List Launch → Memory → Outcome Unit × Memory
  | [], m => (.ok (), m)
  | l :: rest, m =>
      match kernels.lookup l.kernel with
      | none => (.error (.missingKernel l.kernel), m)
      | some body =>
          match l.run body m with
          | (.ok (), m) => runAll kernels rest m
          | (.error e, m) => (.error e, m)
          | (.panic p, m) => (.panic p, m)

section RunAll

variable {kernels : List (String × Kernel.Body)} {l : Launch} {body : Kernel.Body} {m : Memory}

theorem runAll_of_ok (hbody : kernels.lookup l.kernel = some body)
    (h : (l.run body m).1 = .ok ()) (rest : List Launch) :
    runAll kernels (l :: rest) m = runAll kernels rest (l.run body m).2 := by
  have hrun : l.run body m = (.ok (), (l.run body m).2) := Prod.ext h rfl
  rw [runAll, hbody]
  simp only
  rw [hrun]

theorem runAll_of_stop (hbody : kernels.lookup l.kernel = some body)
    (h : (l.run body m).1 ≠ .ok ()) (rest : List Launch) :
    runAll kernels (l :: rest) m = l.run body m := by
  rw [runAll, hbody]
  simp only
  rcases hrun : l.run body m with ⟨outcome, left⟩
  rw [hrun] at h
  cases outcome with
  | ok u => exact absurd rfl h
  | error e => rfl
  | panic p => rfl

end RunAll

/-! ### What they do -/

/-- A device that waits for launches: it has a context and an empty queue, and neither launching nor
waiting fails. -/
structure Idle (d : Emulated) : Prop where
  ready : d.ready = true
  queue : d.pending = []
  launch : d.faults.launch = none
  synchronize : d.faults.synchronize = none

variable {d : Emulated} {ls : List Launch}

/-- What has run leaves the device waiting. -/
theorem Idle.of_run (h : d.Idle) (m : Memory) (stats : Stats) :
    Idle { d with memory := m, stats } :=
  ⟨h.ready, h.queue, h.launch, h.synchronize⟩

/-- Running launches on a device is running them on its memory. -/
theorem runLaunches_eq (ls : List Launch) (v : Verbosity) (d : Emulated) :
    (runLaunches ls v d).outcome = (runAll d.kernels ls d.memory).1 ∧
      (runLaunches ls v d).state = { d with memory := (runAll d.kernels ls d.memory).2 } := by
  induction ls generalizing d with
  | nil => exact ⟨rfl, rfl⟩
  | cons l rest ih =>
      unfold runLaunches
      cases hbody : d.kernels.lookup l.kernel with
      | none =>
          have hmissing : runLaunch l v d = ⟨.error (.missingKernel l.kernel), d, []⟩ := by
            unfold runLaunch
            rw [Act.bind_of_ok rfl, Act.get_apply, Step.after_nil]
            simp only [body?, hbody, Act.fail_apply]
          rw [Act.bind_of_error (by rw [hmissing]), hmissing, runAll, hbody]
          exact ⟨rfl, rfl⟩
      | some body =>
          obtain ⟨houtcome, hstate⟩ := runLaunch_of_body hbody v
          by_cases hok : (l.run body d.memory).1 = .ok ()
          · obtain ⟨hrest, hleft⟩ := ih { d with memory := (l.run body d.memory).2 }
            rw [Act.bind_of_ok (houtcome.trans hok), hstate, runAll_of_ok hbody hok]
            exact ⟨hrest, hleft⟩
          · rw [Act.bind_of_stop (houtcome ▸ hok), runAll_of_stop hbody hok]
            exact ⟨houtcome, hstate⟩

/-- A device with more launches in its queue. -/
def queued (d : Emulated) (ls : List Launch) : Emulated :=
  { d with
    pending := d.pending ++ ls
    stats := { d.stats with launches := d.stats.launches + ls.length } }

theorem queued_nil (d : Emulated) : d.queued [] = d := by
  unfold queued
  rw [List.append_nil]
  rfl

theorem queued_cons (d : Emulated) (l : Launch) (rest : List Launch) :
    d.queued (l :: rest) = (d.queued [l]).queued rest := by
  simp only [queued, List.append_assoc, List.singleton_append, List.length_cons]
  rw [List.length_nil, Nat.zero_add, Nat.add_assoc, Nat.add_comm 1]

theorem launch_apply (hready : d.ready = true) (hfault : d.faults.launch = none) {l : Launch}
    (hknown : (d.body? l.kernel).isSome = true) (v : Verbosity) :
    launch l.kernel l.geometry l.args v d = ⟨.ok (), d.queued [l], []⟩ := by
  obtain ⟨body, hbody⟩ := Option.isSome_iff_exists.1 hknown
  rw [guarded_of_ready (rfl : launch l.kernel l.geometry l.args =
    guarded .launch (fun d => d.faults.launch) _) hready hfault, hbody]
  rfl

/-- **Launches queue up and touch no memory.** -/
theorem launchAll_apply (hready : d.ready = true) (hfault : d.faults.launch = none)
    (hknown : ∀ l ∈ ls, (d.body? l.kernel).isSome = true) (v : Verbosity) :
    launchAll ls v d = ⟨.ok (), d.queued ls, []⟩ := by
  induction ls generalizing d with
  | nil =>
      rw [queued_nil]
      rfl
  | cons l rest ih =>
      have hfirst := launch_apply hready hfault (hknown l List.mem_cons_self) v
      have hrest : launchAll rest v (d.queued [l]) = ⟨.ok (), (d.queued [l]).queued rest, []⟩ :=
        ih hready hfault fun l hl => hknown l (List.mem_cons_of_mem _ hl)
      unfold launchAll
      rw [Act.bind_of_eq hfirst, Step.after_nil, hrest, ← queued_cons]

/-- Waiting once runs the whole list. -/
theorem batched_eq (h : d.Idle) (hknown : ∀ l ∈ ls, (d.body? l.kernel).isSome = true)
    (v : Verbosity) :
    (batched ls v d).outcome = (runAll d.kernels ls d.memory).1 ∧
      ∃ stats, (batched ls v d).state =
        { d with memory := (runAll d.kernels ls d.memory).2, stats } := by
  have hrun : synchronize v (d.queued ls) = runLaunches ls v (d.queued ls).drained := by
    rw [synchronize_of_ready (d := d.queued ls) h.ready h.synchronize, queued, h.queue,
      List.nil_append]
    rfl
  obtain ⟨houtcome, hstate⟩ := runLaunches_eq ls v (d.queued ls).drained
  unfold batched
  rw [Act.bind_of_eq (launchAll_apply h.ready h.launch hknown v), Step.after_nil, hrun]
  refine ⟨houtcome, (d.queued ls).drained.stats, hstate.trans ?_⟩
  rw [h.queue]
  rfl

/-- The cautious caller takes the list in batches of one launch. -/
theorem eager_cons (l : Launch) (rest : List Launch) :
    eager (l :: rest) = batched [l] >>= fun _ => eager rest := by
  have hlaunch : launchAll [l] = launch l.kernel l.geometry l.args := Act.bind_pure _
  rw [batched, hlaunch, Act.bind_assoc]
  rfl

/-- Waiting each time runs the list up to the first launch that does not succeed. -/
theorem eager_eq (h : d.Idle) (hknown : ∀ l ∈ ls, (d.body? l.kernel).isSome = true)
    (v : Verbosity) :
    (eager ls v d).outcome = (runAll d.kernels ls d.memory).1 ∧
      ∃ stats, (eager ls v d).state =
        { d with memory := (runAll d.kernels ls d.memory).2, stats } := by
  induction ls generalizing d with
  | nil => exact ⟨rfl, d.stats, rfl⟩
  | cons l rest ih =>
      have hfirst := hknown l List.mem_cons_self
      obtain ⟨body, hbody⟩ := Option.isSome_iff_exists.1 hfirst
      obtain ⟨houtcome, stats, hstate⟩ :=
        batched_eq h (fun k hk => List.mem_singleton.1 hk ▸ hfirst) v
      rw [eager_cons]
      by_cases hok : (l.run body d.memory).1 = .ok ()
      · rw [runAll_of_ok hbody hok] at houtcome hstate ⊢
        rw [Act.bind_of_ok houtcome, hstate]
        exact ih (h.of_run _ _) fun l hl => hknown l (List.mem_cons_of_mem _ hl)
      · rw [runAll_of_stop hbody hok] at houtcome hstate ⊢
        rw [Act.bind_of_stop (houtcome ▸ hok)]
        exact ⟨houtcome, stats, hstate⟩

/-- **It does not matter how often one waits.**  Queueing launches and waiting once ends as waiting
behind each of them does, with the same memory and an empty queue, and leaves devices that differ
only in what they have counted; and before the caller waits, no launch has touched the memory. -/
theorem batched_agrees_with_eager (hready : d.ready = true) (hqueue : d.pending = [])
    (hlaunch : d.faults.launch = none) (hsynchronize : d.faults.synchronize = none)
    (hknown : ∀ l ∈ ls, (d.body? l.kernel).isSome = true) (v : Verbosity) :
    let once := batched ls v d
    let each := eager ls v d
    once.outcome = each.outcome ∧ once.state.memory = each.state.memory ∧
      once.state.pending = [] ∧ each.state.pending = [] ∧
      { once.state with stats := each.state.stats } = each.state ∧
      ∀ n, (launchAll (ls.take n) v d).outcome = .ok () ∧
        (launchAll (ls.take n) v d).state.memory = d.memory ∧
        (launchAll (ls.take n) v d).state.pending = ls.take n := by
  intro once each
  have hidle : d.Idle := ⟨hready, hqueue, hlaunch, hsynchronize⟩
  obtain ⟨honce, stats, hleft⟩ := batched_eq hidle hknown v
  obtain ⟨heach, stats', hleft'⟩ := eager_eq hidle hknown v
  have hstate : once.state = { d with memory := (runAll d.kernels ls d.memory).2, stats } := hleft
  have hstate' : each.state =
      { d with memory := (runAll d.kernels ls d.memory).2, stats := stats' } := hleft'
  rw [hstate, hstate']
  refine ⟨honce.trans heach.symm, rfl, hqueue, hqueue, rfl, fun n => ?_⟩
  rw [launchAll_apply hready hlaunch (fun l hl => hknown l (List.mem_of_mem_take hl)) v]
  refine ⟨rfl, rfl, ?_⟩
  rw [queued, hqueue, List.nil_append]

/-- A kernel that marks the byte of each thread and fails in the third one. -/
def marking : Kernel.Body
  | thread, [.pointer out, .word32 mark] => do
      let n ← Dialogue.ofOutcome thread.globalLinear
      if n = 2 then .fail (.invalidInput (.other "thread 2 failed"))
      else Kernel.write out n mark.toUInt8
  | _, _ => .fail (.invalidInput (.other "no mark"))

/-- A device with four bytes of memory and a kernel that marks them. -/
def markingBench : Emulated :=
  { new.register "mark" marking with
    selected := some 0
    contextReady := true
    memory := ⟨[⟨Address.ofNat 4096, #[0, 0, 0, 0]⟩], 4608⟩ }

/-- A launch that marks some bytes. -/
def marks (threads mark : UInt32) : Launch :=
  ⟨"mark", ⟨⟨1, 1, 1⟩, ⟨threads, 1, 1⟩⟩, [.pointer (Address.ofNat 4096), .word32 mark]⟩

/-- The second of three launches fails in its third thread.  The two threads before it have put
their marks over the one of the first launch, and the third launch has left none. -/
theorem batched_stops_in_second_launch :
    let ls := [marks 1 7, marks 4 8, marks 2 9]
    markingBench.ready = true ∧ markingBench.pending = [] ∧
      markingBench.faults.launch = none ∧ markingBench.faults.synchronize = none ∧
      (∀ l ∈ ls, (markingBench.body? l.kernel).isSome = true) ∧
      (batched ls .off markingBench).outcome =
        .error (.invalidInput (.other "thread 2 failed")) ∧
      (batched ls .off markingBench).outcome = (eager ls .off markingBench).outcome ∧
      (eager ls .off markingBench).state.memory.buffers =
        [⟨Address.ofNat 4096, #[8, 8, 0, 0]⟩] := by
  intro ls
  have hknown : ∀ l ∈ ls, (markingBench.body? l.kernel).isSome = true := by decide
  obtain ⟨houtcome, hmemory, -⟩ :=
    batched_agrees_with_eager (d := markingBench) rfl rfl rfl rfl hknown .off
  refine ⟨rfl, rfl, rfl, rfl, hknown, by decide +kernel, houtcome, ?_⟩
  rw [← hmemory]
  decide +kernel

end Emulated

end Offload
