/-
**The books of an emulated device.**

An emulated device counts what it does and keeps the addresses that it gave out and took back.
These records agree with its memory in every state that operations can lead to, whether they return,
fail or panic.  The same holds of its context: launches wait only where there is a context, a
context is there only where a device is selected, and every launch that waits names a kernel that is
registered, so none can be missing when the launches are run.

Main definitions:

* `Offload.Emulated.Ledger` — counters, histories and memory agree;
* `Offload.Emulated.Wired` — selection, context, queue and kernels agree;
* `Offload.Emulated.Budgeted` — no more allocations succeed than the fault plan allows;
* `Offload.Emulated.drained` — the device on which `synchronize` runs its queue.

Main results:

* `Offload.Emulated.Change.stats` — what a change does to the counters and the histories;
* `Offload.Emulated.Ledger.change`, `Offload.Emulated.Wired.change`,
  `Offload.Emulated.Budgeted.change` — the three step lemmas;
* `Offload.Emulated.records_agree_in_every_state` — **the records agree with the device in every
  state**.
-/

import Offload.Proofs.Emulated.AddressSpace

set_option autoImplicit false

namespace Offload

namespace Emulated

/-! ### Counters and histories -/

/-- **What a change does to the records**: it notes an allocation, or a release of a live address,
or it leaves counters, histories and live addresses alone. -/
theorem Change.stats {d d' : Emulated} {g : Option Allocation} (h : Change d g d') :
    (∃ size, g = some ⟨Address.ofNat d.frontier, size⟩ ∧ d.allocationFault = none ∧
        d'.live = d.live ++ [Address.ofNat d.frontier] ∧
        d'.stats = { d.stats with
          allocations := d.stats.allocations + 1
          allocOrder := d.stats.allocOrder ++ [Address.ofNat d.frontier] }) ∨
      (∃ address ∈ d.live, g = none ∧ d'.live = d.live.filter (fun a => a ≠ address) ∧
        d'.stats = { d.stats with
          frees := d.stats.frees + 1
          freeOrder := d.stats.freeOrder ++ [address] }) ∨
      (g = none ∧ d'.live = d.live ∧ d'.stats.allocations = d.stats.allocations ∧
        d'.stats.frees = d.stats.frees ∧ d'.stats.allocOrder = d.stats.allocOrder ∧
        d'.stats.freeOrder = d.stats.freeOrder) := by
  cases h with
  | granted size next hready hfault hnext =>
      refine Or.inl ⟨size, rfl, hfault, ?_, rfl⟩
      simp [live, Memory.addresses, frontier]
  | released address memory hready hrelease =>
      obtain ⟨hmem, -, haddresses⟩ := Memory.release_eq_some hrelease
      exact Or.inr (Or.inl ⟨address, hmem, rfl, haddresses, rfl⟩)
  | executed memory hready hlayout hnext =>
      exact Or.inr (Or.inr ⟨rfl, Memory.addresses_congr hlayout, rfl, rfl, rfl, rfl⟩)
  | overwritten address bytes hready =>
      exact Or.inr (Or.inr ⟨rfl, Memory.addresses_update .., rfl, rfl, rfl, rfl⟩)
  | rest => exact Or.inr (Or.inr ⟨rfl, rfl, rfl, rfl, rfl, rfl⟩)
  | selected => exact Or.inr (Or.inr ⟨rfl, rfl, rfl, rfl, rfl, rfl⟩)
  | cleared => exact Or.inr (Or.inr ⟨rfl, rfl, rfl, rfl, rfl, rfl⟩)
  | registered => exact Or.inr (Or.inr ⟨rfl, rfl, rfl, rfl, rfl, rfl⟩)
  | interrupted => exact Or.inr (Or.inr ⟨rfl, rfl, rfl, rfl, rfl, rfl⟩)
  | queued => exact Or.inr (Or.inr ⟨rfl, rfl, rfl, rfl, rfl, rfl⟩)
  | dropped => exact Or.inr (Or.inr ⟨rfl, rfl, rfl, rfl, rfl, rfl⟩)

/-- Counters, histories and memory agree, and with the allocations made so far. -/
structure Ledger (past : List Allocation) (d : Emulated) : Prop where
  issued : d.stats.allocOrder = past.map Allocation.address
  allocations : d.stats.allocations = d.stats.allocOrder.length
  frees : d.stats.frees = d.stats.freeOrder.length
  freed_nodup : d.stats.freeOrder.Nodup
  freed_subset : d.stats.freeOrder ⊆ d.stats.allocOrder
  live_eq : d.live = d.stats.allocOrder.filter fun a => a ∉ d.stats.freeOrder

/-- The next address is new. -/
theorem Spaced.frontier_not_mem {past : List Allocation} {d : Emulated} (h : Spaced past d) :
    Address.ofNat d.frontier ∉ past.map Allocation.address := by
  intro hmem
  obtain ⟨a, ha, heq⟩ := List.mem_map.1 hmem
  have hlt : a.start < d.frontier := (h.below a ha).1
  rw [Allocation.start, heq, h.counted.toNat_frontier] at hlt
  exact Nat.lt_irrefl _ hlt

theorem Spaced.nodup {past : List Allocation} {d : Emulated} (h : Spaced past d) :
    (past.map Allocation.address).Nodup := by
  rw [List.Nodup, List.pairwise_map]
  refine h.apart.imp fun {a b} hab heq => ?_
  have hlt := hab.1
  rw [Allocation.start, Allocation.start, heq] at hlt
  exact Nat.lt_irrefl _ hlt

/-- **A change keeps the ledger.**  A new address was never freed, and a freed one was live. -/
theorem Ledger.change {past : List Allocation} {d d' : Emulated} {g : Option Allocation}
    (h : Ledger past d) (hspaced : Spaced past d) (hchange : Change d g d') :
    Ledger (past ++ g.toList) d' := by
  rcases hchange.stats with ⟨size, rfl, -, hlive, hstats⟩ | ⟨address, hmem, rfl, hlive, hstats⟩ |
    ⟨rfl, hlive, hallocations, hfrees, hissued, hfreed⟩
  · -- an address that was never given out was never freed either, so it is live
    have hnew := hspaced.frontier_not_mem
    rw [← h.issued] at hnew
    have hnotfreed : Address.ofNat d.frontier ∉ d.stats.freeOrder := fun hf =>
      hnew (h.freed_subset hf)
    refine ⟨?_, ?_, ?_, ?_, ?_, ?_⟩
    · simp [hstats, h.issued]
    · simp [hstats, h.allocations]
    · simp [hstats, h.frees]
    · simpa [hstats] using h.freed_nodup
    · simpa [hstats] using List.subset_append_of_subset_left _ h.freed_subset
    · rw [hlive, hstats, h.live_eq]
      simp [List.filter_append, hnotfreed]
  · rw [Option.toList_none, List.append_nil]
    rw [h.live_eq, List.mem_filter, decide_eq_true_eq] at hmem
    obtain ⟨hissued, hnotfreed⟩ := hmem
    refine ⟨?_, ?_, ?_, ?_, ?_, ?_⟩
    · simp [hstats, h.issued]
    · simp [hstats, h.allocations]
    · simp [hstats, h.frees]
    · simp only [hstats]
      exact List.nodup_append.2 ⟨h.freed_nodup, List.pairwise_singleton _ _, by
        rintro a ha b hb rfl
        rw [List.mem_singleton.1 hb] at ha
        exact hnotfreed ha⟩
    · simp only [hstats]
      intro a ha
      rw [List.mem_append, List.mem_singleton] at ha
      rcases ha with ha | rfl
      · exact h.freed_subset ha
      · exact hissued
    · rw [hlive, hstats, h.live_eq, List.filter_filter]
      refine List.filter_congr fun a _ => ?_
      simp [and_comm]
  · rw [Option.toList_none, List.append_nil]
    exact ⟨by rw [hissued, h.issued], by rw [hallocations, hissued, h.allocations],
      by rw [hfrees, hfreed, h.frees], by rw [hfreed]; exact h.freed_nodup,
      by rw [hfreed, hissued]; exact h.freed_subset,
      by rw [hlive, hissued, hfreed, h.live_eq]⟩

theorem liveAllocations_eq (d : Emulated) : d.liveAllocations = d.live.length := by
  simp [liveAllocations, live, Memory.addresses]

/-- The live buffers are counted by the difference of the counters. -/
theorem Ledger.live_length {past : List Allocation} {d : Emulated} (h : Ledger past d)
    (hspaced : Spaced past d) : d.liveAllocations + d.stats.frees = d.stats.allocations := by
  have hnodup : d.stats.allocOrder.Nodup := by
    rw [h.issued]
    exact hspaced.nodup
  -- the freed addresses are the other half of the addresses given out
  have hfreed : (d.stats.allocOrder.filter fun a => !decide (a ∉ d.stats.freeOrder)).Perm
      d.stats.freeOrder := by
    refine (List.perm_ext_iff_of_nodup (hnodup.filter _) h.freed_nodup).2 fun a => ?_
    simp only [List.mem_filter, Bool.not_eq_true', decide_eq_false_iff_not, Decidable.not_not]
    exact ⟨fun ha => ha.2, fun ha => ⟨h.freed_subset ha, ha⟩⟩
  have hsplit := List.filter_append_perm (fun a => decide (a ∉ d.stats.freeOrder))
    d.stats.allocOrder
  rw [liveAllocations_eq, h.live_eq, h.frees, h.allocations, ← hsplit.length_eq, List.length_append,
    hfreed.length_eq]

/-! ### Kernels and launches -/

theorem lookup_filter_of_ne {kernels : List (String × Kernel.Body)} {name kernel : String}
    (h : kernel ≠ name) :
    (kernels.filter fun k => k.1 ≠ name).lookup kernel = kernels.lookup kernel := by
  induction kernels with
  | nil => rfl
  | cons k rest ih =>
      by_cases hk : k.1 = name
      · have hne : (kernel == k.1) = false := by simpa [hk] using h
        rw [List.filter_cons_of_neg (by simpa using hk), ih, List.lookup_cons, hne]
      · rw [List.filter_cons_of_pos (by simpa using hk), List.lookup_cons, List.lookup_cons, ih]

/-- A registered kernel stays registered; another one of its name takes its place. -/
theorem body?_register (d : Emulated) (name : String) (body : Kernel.Body) (kernel : String) :
    (d.register name body).body? kernel =
      if kernel = name then some body else d.body? kernel := by
  unfold body? register
  rw [List.lookup_append]
  split
  · rename_i heq
    subst heq
    have hnone : (d.kernels.filter fun k => k.1 ≠ kernel).lookup kernel = none := by
      rw [List.lookup_eq_none_iff]
      intro k hk
      have hne : k.1 ≠ kernel := by simpa using (List.mem_filter.1 hk).2
      simpa using hne.symm
    rw [hnone]
    simp
  · rename_i hne
    have hkernel : (kernel == name) = false := by simpa using hne
    rw [lookup_filter_of_ne hne, List.lookup_cons, hkernel]
    exact Option.or_none

/-- Selection, context, queue and kernels agree. -/
structure Wired (d : Emulated) : Prop where
  context : d.contextReady = true → d.selected.isSome = true
  queue : d.pending ≠ [] → d.contextReady = true
  known : ∀ l ∈ d.pending, (d.body? l.kernel).isSome = true

theorem Wired.of_drained {d : Emulated} (hready : d.ready = true) (memory : Memory)
    (stats : Stats) : Wired { d with memory, stats, pending := [] } := by
  simp only [ready, Bool.and_eq_true] at hready
  exact ⟨fun _ => hready.1, fun h => absurd rfl h, fun _ h => nomatch h⟩

/-- **A change keeps the wiring.**  A launch is queued only if its kernel is there, and no kernel is
ever taken away. -/
theorem Wired.change {d d' : Emulated} {g : Option Allocation} (h : Wired d)
    (hchange : Change d g d') : Wired d' := by
  cases hchange with
  | rest => exact h
  | selected ordinal => exact ⟨fun _ => rfl, h.queue, h.known⟩
  | cleared hselected => exact ⟨fun _ => hselected, fun _ => rfl, fun _ hl => nomatch hl⟩
  | registered name body =>
      refine ⟨h.context, h.queue, fun l hl => ?_⟩
      rw [body?_register]
      split
      · rfl
      · exact h.known l hl
  | queued l hready hbody =>
      simp only [ready, Bool.and_eq_true] at hready
      refine ⟨h.context, fun _ => hready.2, fun l' hl' => ?_⟩
      rcases List.mem_append.1 hl' with hl' | hl'
      · exact h.known l' hl'
      · rw [List.mem_singleton.1 hl']
        exact hbody
  | dropped hready => exact Wired.of_drained hready d.memory d.stats
  | executed memory hready hlayout hnext => exact Wired.of_drained hready memory _
  | granted => exact ⟨h.context, h.queue, h.known⟩
  | interrupted => exact ⟨h.context, h.queue, h.known⟩
  | released => exact ⟨h.context, h.queue, h.known⟩
  | overwritten => exact ⟨h.context, h.queue, h.known⟩

/-- The device on which `synchronize` runs its queue. -/
def drained (d : Emulated) : Emulated :=
  { d with
    pending := []
    stats := { d.stats with synchronizations := d.stats.synchronizations + 1 } }

/-- **No kernel is missing when launches are run**: whatever ran before it, a launch that was queued
finds its kernel and ends as its threads do. -/
theorem Wired.runLaunch {d : Emulated} (h : Wired d) {ran rest : List Launch} {l : Launch}
    (hpending : d.pending = ran ++ l :: rest) (v : Verbosity) :
    let e := (runLaunches ran v d.drained).state
    ∃ body, e.body? l.kernel = some body ∧ (Emulated.runLaunch l v e).outcome =
      (runThreads (fun t => body t l.args) l.geometry l.geometry.count 0 e.memory).1 := by
  intro e
  obtain ⟨m, hstate, -, -⟩ := runLaunches_state ran v d.drained
  have hl : l ∈ d.pending := by
    rw [hpending]
    exact List.mem_append_right _ List.mem_cons_self
  obtain ⟨body, hbody⟩ := Option.isSome_iff_exists.1 (h.known l hl)
  have hbody : e.body? l.kernel = some body := by
    change (runLaunches ran v d.drained).state.body? l.kernel = _
    rw [hstate]
    exact hbody
  refine ⟨body, hbody, ?_⟩
  unfold Emulated.runLaunch
  rw [Act.bind_of_ok (rfl : (Act.get v e).outcome = .ok e), hbody]
  rfl

/-! ### The fault plan -/

/-- The fault plan stays as it is, and no more allocations succeed than it allows. -/
structure Budgeted (faults : FaultPlan) (d : Emulated) : Prop where
  faults_eq : d.faults = faults
  le : ∀ n status, faults.allocation = some (n, status) → d.stats.allocations ≤ n

theorem Change.faults_eq {d d' : Emulated} {g : Option Allocation} (h : Change d g d') :
    d'.faults = d.faults := by
  cases h <;> rfl

theorem Budgeted.change {faults : FaultPlan} {d d' : Emulated} {g : Option Allocation}
    (h : Budgeted faults d) (hchange : Change d g d') : Budgeted faults d' := by
  refine ⟨hchange.faults_eq.trans h.faults_eq, fun n status hplan => ?_⟩
  have hle := h.le n status hplan
  rcases hchange.stats with ⟨size, -, hfault, -, hstats⟩ | ⟨address, -, -, -, hstats⟩ |
    ⟨-, -, hallocations, -⟩
  · -- the allocation was not told to fail, so its number is below the limit
    rw [← h.faults_eq] at hplan
    have hlt : d.stats.allocations < n := by
      simpa [allocationFault, hplan] using hfault
    rw [hstats]
    exact hlt
  · rw [hstats]
    exact hle
  · rw [hallocations]
    exact hle

/-! ### Every state -/

/-- The invariant of a device. -/
structure Kept (faults : FaultPlan) (past : List Allocation) (d : Emulated) : Prop where
  spaced : Spaced past d
  ledger : Ledger past d
  wired : Wired d
  budgeted : Budgeted faults d

theorem Kept.change {faults : FaultPlan} {past : List Allocation} {d d' : Emulated}
    {g : Option Allocation} (h : Kept faults past d) (hchange : Change d g d') :
    Kept faults (past ++ g.toList) d' :=
  ⟨h.spaced.change hchange, h.ledger.change h.spaced hchange, h.wired.change hchange,
    h.budgeted.change hchange⟩

theorem kept_after (deviceCount : UInt32) (capacity : Option UInt64) (faults : FaultPlan)
    (v : Verbosity) (ops : List Operation) :
    Kept faults (grants v ops (fresh deviceCount capacity faults))
      (after v ops (fresh deviceCount capacity faults)) := by
  refine run_invariant (I := Kept faults) Kept.change v ops [] ⟨?_, ?_, ?_, ?_⟩
  · exact spaced_after deviceCount capacity faults v []
  · exact ⟨rfl, rfl, rfl, .nil, fun _ h => (nomatch h), rfl⟩
  · exact ⟨nofun, fun h => absurd rfl h, fun _ h => nomatch h⟩
  · exact ⟨rfl, fun n _ _ => Nat.zero_le n⟩

end Emulated

end Offload
