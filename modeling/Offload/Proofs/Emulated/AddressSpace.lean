/-
**The address space of an emulated device.**

Addresses come from a counter, the frontier, that starts at a fixed base and only grows, in steps of
the alignment.  So allocations lie one behind the other, freed ones included: no two of them share a
byte, and an address that was freed stays below the frontier for good.  The counter is checked
against the range of a machine word before a buffer is made, so it never wraps, and an allocation
that panics leaves it where the next one may start.

A stale address is therefore harmless.  Nothing is ever given out under it again, and whoever uses
it gets a failure and changes nothing, the kernels in the middle of a launch included.

Main definitions:

* `Offload.Allocation.start`, `Offload.Allocation.Covers` — the bytes of an allocation;
* `Offload.Emulated.Counted` — the invariant of the counter;
* `Offload.Emulated.Spaced` — the invariant of the allocations made so far;
* `Offload.Emulated.Spent` — an address that is below the frontier and not live;
* `Offload.Emulated.Rejects` — every use of an address fails and changes nothing.

Main results:

* `Offload.Emulated.Change.memory` — what a change does to the counter and to the live addresses;
* `Offload.Emulated.allocations_disjoint_and_never_reused` — **allocations never overlap, and a
  freed address is never valid again**.
-/

import Offload.Proofs.Emulated.Operations

set_option autoImplicit false

namespace Offload

namespace Allocation

/-- The number of the first byte. -/
def start (a : Allocation) : Nat :=
  a.address.toNat

/-- A byte belongs to an allocation. -/
def Covers (a : Allocation) (n : Nat) : Prop :=
  a.start ≤ n ∧ n < a.start + a.size

/-- An allocation lies before a byte, even if it has no bytes of its own. -/
def Below (a : Allocation) (n : Nat) : Prop :=
  a.start < n ∧ a.start + a.size ≤ n

theorem Below.mono {a : Allocation} {m n : Nat} (h : a.Below m) (hmn : m ≤ n) : a.Below n :=
  ⟨Nat.lt_of_lt_of_le h.1 hmn, Nat.le_trans h.2 hmn⟩

theorem Below.not_covers {a b : Allocation} (h : a.Below b.start) (n : Nat) :
    ¬ (a.Covers n ∧ b.Covers n) := by
  rintro ⟨⟨-, hlt⟩, ⟨hle, -⟩⟩
  have := h.2
  omega

end Allocation

theorem Memory.frontier_of_pos {m : Memory} (h : 0 < m.next) : m.frontier = m.next := by
  unfold frontier
  rw [if_neg (Nat.ne_of_gt h)]

theorem Memory.frontier_congr {m m' : Memory} (h : m'.next = m.next) :
    m'.frontier = m.frontier := by
  unfold frontier
  rw [h]

namespace Emulated

/-- The next address to give out. -/
def frontier (d : Emulated) : Nat :=
  d.memory.frontier

/-- The addresses of the live buffers. -/
def live (d : Emulated) : List Address :=
  d.memory.addresses

/-- The counter moves on, by a multiple of the alignment and inside the range of a word. -/
structure Advances (d d' : Emulated) : Prop where
  le : d.frontier ≤ d'.frontier
  dvd : Memory.alignment ∣ d'.frontier - d.frontier
  lt_bound : d.frontier < Word.bound → d'.frontier < Word.bound

theorem Advances.of_eq {d d' : Emulated} (h : d'.frontier = d.frontier) : Advances d d' := by
  refine ⟨by omega, ?_, fun hlt => by omega⟩
  rw [h, Nat.sub_self]
  exact Nat.dvd_zero _

theorem Advances.of_fits {d d' : Emulated} {size : Nat} (h : d.memory.Fits size d'.frontier) :
    Advances d d' :=
  ⟨Nat.le_of_lt h.lt, h.dvd, fun _ => h.lt_bound⟩

/-- **What a change does to the memory.**  Either it makes a buffer at the frontier, or it makes
none and at most some buffers are gone; the counter moves on in both cases. -/
theorem Change.memory {d d' : Emulated} {g : Option Allocation} (h : Change d g d')
    (hbase : Memory.base ≤ d.frontier) :
    (∃ size, g = some ⟨Address.ofNat d.frontier, size⟩ ∧ d.memory.Fits size d'.frontier ∧
        d'.live = d.live ++ [Address.ofNat d.frontier]) ∨
      (g = none ∧ Advances d d' ∧ d'.live.Sublist d.live) := by
  have hpos : 0 < d.frontier := Nat.lt_of_lt_of_le (by decide) hbase
  cases h with
  | granted size next hready hfault hnext =>
      have hfrontier : (⟨d.memory.buffers ++ [⟨Address.ofNat d.memory.frontier,
          Array.replicate size Memory.poison⟩], next⟩ : Memory).frontier = next :=
        Memory.frontier_of_pos (Nat.zero_lt_of_lt hnext.lt)
      refine Or.inl ⟨size, rfl, ?_, ?_⟩
      · simp only [frontier, hfrontier]
        exact hnext
      · simp [live, Memory.addresses, frontier]
  | interrupted size next hready hnext =>
      refine Or.inr ⟨rfl, ?_, List.Sublist.refl _⟩
      rcases hnext with rfl | hnext
      · exact Advances.of_eq (Memory.frontier_of_pos hpos)
      · have hfrontier : ({ d.memory with next } : Memory).frontier = next :=
          Memory.frontier_of_pos (Nat.zero_lt_of_lt hnext.lt)
        have hfits : d.memory.Fits size ({ d.memory with next } : Memory).frontier := by
          rw [hfrontier]
          exact hnext
        exact Advances.of_fits hfits
  | released address memory hready hrelease =>
      obtain ⟨-, hnext, haddresses⟩ := Memory.release_eq_some hrelease
      refine Or.inr ⟨rfl, Advances.of_eq (Memory.frontier_congr hnext), ?_⟩
      simp only [live, haddresses]
      exact List.filter_sublist
  | executed memory hready hlayout hnext =>
      refine Or.inr ⟨rfl, Advances.of_eq (Memory.frontier_congr hnext), ?_⟩
      simp only [live, Memory.addresses_congr hlayout]
      exact List.Sublist.refl _
  | overwritten address bytes hready =>
      refine Or.inr ⟨rfl, Advances.of_eq rfl, ?_⟩
      simp only [live, Memory.replace, Memory.addresses_update]
      exact List.Sublist.refl _
  | rest => exact Or.inr ⟨rfl, Advances.of_eq rfl, List.Sublist.refl _⟩
  | selected => exact Or.inr ⟨rfl, Advances.of_eq rfl, List.Sublist.refl _⟩
  | cleared => exact Or.inr ⟨rfl, Advances.of_eq rfl, List.Sublist.refl _⟩
  | registered => exact Or.inr ⟨rfl, Advances.of_eq rfl, List.Sublist.refl _⟩
  | queued => exact Or.inr ⟨rfl, Advances.of_eq rfl, List.Sublist.refl _⟩
  | dropped => exact Or.inr ⟨rfl, Advances.of_eq rfl, List.Sublist.refl _⟩

/-! ### The counter -/

/-- The counter is in its range, and live addresses are below it. -/
structure Counted (d : Emulated) : Prop where
  base_le : Memory.base ≤ d.frontier
  dvd : Memory.alignment ∣ d.frontier
  lt_bound : d.frontier < Word.bound
  live_lt : ∀ a ∈ d.live, a.toNat < d.frontier

theorem counted_fresh (deviceCount : UInt32) (capacity : Option UInt64) (faults : FaultPlan) :
    Counted (fresh deviceCount capacity faults) := by
  have hfrontier : (fresh deviceCount capacity faults).frontier = Memory.base := rfl
  refine ⟨Nat.le_refl _, ?_, ?_, fun a h => nomatch h⟩
  · rw [hfrontier]
    decide
  · rw [hfrontier]
    decide

theorem Counted.toNat_frontier {d : Emulated} (h : Counted d) :
    (Address.ofNat d.frontier).toNat = d.frontier :=
  Address.toNat_ofNat h.lt_bound

/-- A change keeps the counter in its range. -/
theorem Counted.change {d d' : Emulated} {g : Option Allocation} (h : Counted d)
    (hchange : Change d g d') : Counted d' ∧ Advances d d' := by
  rcases hchange.memory h.base_le with ⟨size, -, hfits, hlive⟩ | ⟨-, hadvances, hlive⟩
  · have hadvances := Advances.of_fits hfits
    refine ⟨⟨Nat.le_trans h.base_le hadvances.le, ?_, hfits.lt_bound, ?_⟩, hadvances⟩
    · exact (Nat.dvd_sub_iff_left hadvances.le h.dvd).1 hadvances.dvd
    · intro a ha
      rw [hlive, List.mem_append, List.mem_singleton] at ha
      rcases ha with ha | rfl
      · exact Nat.lt_of_lt_of_le (h.live_lt a ha) hadvances.le
      · rw [h.toNat_frontier]
        exact hfits.lt
  · refine ⟨⟨Nat.le_trans h.base_le hadvances.le, ?_, hadvances.lt_bound h.lt_bound, ?_⟩,
      hadvances⟩
    · exact (Nat.dvd_sub_iff_left hadvances.le h.dvd).1 hadvances.dvd
    · intro a ha
      exact Nat.lt_of_lt_of_le (h.live_lt a (hlive.subset ha)) hadvances.le

/-! ### Allocations -/

/-- The allocations made so far lie one behind the other, between the base and the frontier. -/
structure Spaced (past : List Allocation) (d : Emulated) : Prop where
  counted : Counted d
  placed : ∀ g ∈ past, Memory.alignment ∣ g.start ∧ Memory.base ≤ g.start
  below : ∀ g ∈ past, g.Below d.frontier
  apart : past.Pairwise fun a b => a.Below b.start

/-- **A change keeps allocations apart**: a new one lies behind all the others. -/
theorem Spaced.change {past : List Allocation} {d d' : Emulated} {g : Option Allocation}
    (h : Spaced past d) (hchange : Change d g d') : Spaced (past ++ g.toList) d' := by
  obtain ⟨hcounted, hadvances⟩ := h.counted.change hchange
  have hbelow : ∀ a ∈ past, a.Below d'.frontier := fun a ha => (h.below a ha).mono hadvances.le
  rcases hchange.memory h.counted.base_le with ⟨size, rfl, hfits, -⟩ | ⟨rfl, -, -⟩
  · have hstart : Allocation.start ⟨Address.ofNat d.frontier, size⟩ = d.frontier :=
      h.counted.toNat_frontier
    refine ⟨hcounted, ?_, ?_, ?_⟩
    · intro a ha
      rw [Option.toList_some, List.mem_append, List.mem_singleton] at ha
      rcases ha with ha | rfl
      · exact h.placed a ha
      · rw [hstart]
        exact ⟨h.counted.dvd, h.counted.base_le⟩
    · intro a ha
      rw [Option.toList_some, List.mem_append, List.mem_singleton] at ha
      rcases ha with ha | rfl
      · exact hbelow a ha
      · rw [Allocation.Below, hstart]
        exact ⟨hfits.lt, hfits.le⟩
    · rw [Option.toList_some, List.pairwise_append]
      refine ⟨h.apart, List.pairwise_singleton _ _, fun a ha b hb => ?_⟩
      rw [List.mem_singleton.1 hb, hstart]
      exact h.below a ha
  · rw [Option.toList_none, List.append_nil]
    exact ⟨hcounted, h.placed, hbelow, h.apart⟩

theorem spaced_after (deviceCount : UInt32) (capacity : Option UInt64) (faults : FaultPlan)
    (v : Verbosity) (ops : List Operation) :
    Spaced (grants v ops (fresh deviceCount capacity faults))
      (after v ops (fresh deviceCount capacity faults)) :=
  run_invariant (I := Spaced) Spaced.change v ops []
    ⟨counted_fresh deviceCount capacity faults, fun _ h => (nomatch h), fun _ h => (nomatch h),
      .nil⟩

/-! ### Stale addresses -/

/-- An address is below the frontier, not live, and not among some later allocations. -/
structure Spent (address : Address) (later : List Allocation) (d : Emulated) : Prop where
  counted : Counted d
  lt : address.toNat < d.frontier
  not_live : address ∉ d.live
  not_granted : ∀ g ∈ later, g.address ≠ address

/-- **A change leaves a spent address spent**: what it gives out is the frontier. -/
theorem Spent.change {address : Address} {later : List Allocation} {d d' : Emulated}
    {g : Option Allocation} (h : Spent address later d) (hchange : Change d g d') :
    Spent address (later ++ g.toList) d' := by
  obtain ⟨hcounted, hadvances⟩ := h.counted.change hchange
  have hlt : address.toNat < d'.frontier := Nat.lt_of_lt_of_le h.lt hadvances.le
  rcases hchange.memory h.counted.base_le with ⟨size, rfl, -, hlive⟩ | ⟨rfl, -, hlive⟩
  · -- what is given out is the frontier, and a spent address is below it
    have hne : Address.ofNat d.frontier ≠ address := by
      rintro rfl
      rw [h.counted.toNat_frontier] at hlt
      have := h.lt
      rw [h.counted.toNat_frontier] at this
      exact Nat.lt_irrefl _ this
    refine ⟨hcounted, hlt, ?_, ?_⟩
    · rw [hlive, List.mem_append, List.mem_singleton]
      exact fun hmem => hmem.elim h.not_live fun heq => hne heq.symm
    · intro a ha
      rw [Option.toList_some, List.mem_append, List.mem_singleton] at ha
      rcases ha with ha | rfl
      · exact h.not_granted a ha
      · exact hne
  · rw [Option.toList_none, List.append_nil]
    exact ⟨hcounted, hlt, fun hmem => h.not_live (hlive.subset hmem), h.not_granted⟩

/-- A successful free spends its address. -/
theorem spent_of_free {d : Emulated} {address : Address} {v : Verbosity} (hd : Counted d)
    (h : (free address v d).outcome = .ok ()) : Spent address [] (free address v d).state := by
  obtain ⟨hcounted, hadvances⟩ := hd.change (change_free address v d)
  rcases free_cases address v d with ⟨e, herror, -⟩ | ⟨memory, -, hrelease, -, hstate⟩
  · rw [herror] at h
    cases h
  · rw [hstate] at hcounted hadvances ⊢
    obtain ⟨hmem, -, haddresses⟩ := Memory.release_eq_some hrelease
    refine ⟨hcounted, Nat.lt_of_lt_of_le (hd.live_lt address hmem) hadvances.le, ?_,
      fun _ h => nomatch h⟩
    simp only [live, haddresses]
    simp

/-- Every use of an address fails and changes nothing.  A kernel may have run before it reads or
writes, so this is also said of the memory in the middle of a launch. -/
structure Rejects (d : Emulated) (address : Address) : Prop where
  free : ∀ v, ∃ e, (free address v d).outcome = .error e ∧ (free address v d).state = d
  copyToDevice : ∀ v bytes, ∃ e, (copyToDevice address bytes v d).outcome = .error e ∧
    (copyToDevice address bytes v d).state = d
  copyFromDevice : ∀ v buffer, ∃ e, (copyFromDevice address v (d, buffer)).outcome = .error e ∧
    (copyFromDevice address v (d, buffer)).state = (d, buffer)
  read : ∀ (k : Kernel Unit) width index, ∃ e,
    (k.run d.memory).2.read address width index = .error e
  write : ∀ (k : Kernel Unit) index bytes, ∃ e,
    (k.run d.memory).2.write address index bytes = (.error e, (k.run d.memory).2)

theorem rejects_of_not_live {d : Emulated} {address : Address} (h : address ∉ d.live) :
    d.Rejects address := by
  have hfind : d.memory.find? address = none := Memory.find?_eq_none_iff.2 h
  have hrun : ∀ k : Kernel Unit, (k.run d.memory).2.find? address = none := by
    intro k
    rw [Memory.find?_eq_none_iff, Memory.addresses_congr (k.run_layout d.memory).1]
    exact h
  refine ⟨fun v => ?_, fun v bytes => ?_, fun v buffer => ?_, fun k width index => ?_,
    fun k index bytes => ?_⟩
  · rcases free_cases address v d with hrejected | ⟨memory, -, hrelease, -⟩
    · exact hrejected
    · exact absurd (Memory.release_eq_some hrelease).1 h
  · rcases copyToDevice_cases address bytes v d with hrejected | ⟨-, hsize, -⟩
    · exact hrejected
    · simp [Memory.size?, hfind] at hsize
  · rcases copyFromDevice_cases address v d buffer with ⟨e, -, hcopy⟩ | ⟨bytes, hcontents, -⟩
    · rw [hcopy]
      exact ⟨e, rfl, rfl⟩
    · rcases contents_cases address buffer.length v d with ⟨e, herror⟩ | ⟨bytes, hbytes, -⟩
      · rw [hcontents] at herror
        cases herror
      · simp [Memory.bytes, hfind] at hbytes
  · exact ⟨.invalidHandle address, by simp [Memory.read, Memory.bytes, hrun k]⟩
  · exact ⟨.invalidHandle address, by
      simp [Memory.write, Memory.size, Memory.size?, hrun k]⟩

/-- **Allocations never overlap, and a freed address is never valid again.**

Take any sequence of operations on a new device, with any kernels and faults, whether the operations
return, fail or panic.  The successful allocations have strictly increasing addresses, multiples of
256 from the base on, and their bytes are disjoint and inside the range of a word, whatever was
freed in between.  After a successful free, however the sequence goes on, the address is not given
out again, and every use of it fails and changes nothing. -/
theorem allocations_disjoint_and_never_reused (deviceCount : UInt32) (capacity : Option UInt64)
    (faults : FaultPlan) (v : Verbosity) (ops : List Operation) :
    let d := after v ops (fresh deviceCount capacity faults)
    let made := grants v ops (fresh deviceCount capacity faults)
    (made.Pairwise fun a b => a.start < b.start ∧ ∀ n, ¬ (a.Covers n ∧ b.Covers n)) ∧
      (∀ a ∈ made, 256 ∣ a.start ∧ 0x7f0000000000 ≤ a.start ∧
        a.start + a.size < UInt64.size) ∧
      ∀ address, (free address v d).outcome = .ok () → ∀ later,
        (∀ a ∈ grants v later (free address v d).state, a.address ≠ address) ∧
          (after v later (free address v d).state).Rejects address := by
  intro d made
  have hspaced := spaced_after deviceCount capacity faults v ops
  refine ⟨hspaced.apart.imp fun h => ⟨h.1, h.not_covers⟩, fun a ha => ?_,
    fun address hfree later => ?_⟩
  · obtain ⟨haligned, hbase⟩ := hspaced.placed a ha
    exact ⟨haligned, hbase, Nat.lt_of_le_of_lt (hspaced.below a ha).2 hspaced.counted.lt_bound⟩
  · have hspent := run_invariant (I := Spent address) Spent.change v later []
      (spent_of_free hspaced.counted hfree)
    exact ⟨hspent.not_granted, rejects_of_not_live hspent.not_live⟩

/-- Between two allocations, one that is too large for a buffer: it panics after the counter has
moved. -/
def interruptedTrace : List Operation :=
  [.call (.select 0), .call .reset, .call (.allocate 10), .call (.allocate 9223372036854775808),
    .call (.allocate 300)]

theorem allocations_apart_around_a_panic :
    let d := after .off interruptedTrace (fresh 1 none {})
    let first : Address := ⟨0x7f0000000000⟩
    (grants .off interruptedTrace (fresh 1 none {})).map (fun a => (a.start, a.size)) =
        [(0x7f0000000000, 10), (0x7f0000000100 + 9223372036854775808, 300)] ∧
      (free first .off d).outcome = .ok () ∧
      (after .off [.call (.allocate 10)] (free first .off d).state).Rejects first :=
  ⟨by decide +kernel, rfl,
    ((allocations_disjoint_and_never_reused 1 none {} .off interruptedTrace).2.2 _ rfl _).2⟩

end Emulated

end Offload
