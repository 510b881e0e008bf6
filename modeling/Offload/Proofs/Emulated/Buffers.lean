/-
**The live buffers of an emulated device.**

The layout of a device is the list of its live buffers, each with its address and its size.  An
operation appends the allocation that it makes, takes away one address, or leaves the layout alone:
no buffer is ever moved or resized, not even by the kernels that a synchronization runs.  So the
buffers of a device lie one behind the other below the frontier, and the bytes in all of them
together are no more than the counter has moved.

What a device is equipped with — how many devices there are, the memory that it reports, its
kernels and its fault plan — is not changed by any call.

Main definitions:

* `Offload.Emulated.layout`, `Offload.Emulated.Ordered` — the live buffers, and their invariant;
* `Offload.Emulated.Reachable` — the devices that can be made by operations on a new one;
* `Offload.Act.Keeps` — an action leaves a part of its state alone;
* `Offload.Emulated.Equipment` — what calls do not change;
* `Offload.Emulated.unlessInjected` — how a call ends if nothing but an injected fault can stop it.

Main results:

* `Offload.Emulated.Change.layout` — what a change does to the live buffers;
* `Offload.Emulated.Reachable.ordered` — **the buffers of a reachable device are in order**;
* `Offload.Operation.equipment_call` — no call changes the equipment;
* `Offload.Emulated.free_of_live`, `Offload.Emulated.copyToDevice_of_live`,
  `Offload.Emulated.read_of_live` — calls on a live buffer fail only if they are told to.
-/

import Offload.Proofs.Emulated.AddressSpace

set_option autoImplicit false

namespace Offload

/-! ### Sums -/

/-- Part of a list adds up to no more than the list. -/
theorem Word.total_le_of_sublist {l l' : List Nat} (h : l.Sublist l') : total l ≤ total l' := by
  induction h with
  | slnil => exact Nat.le_refl _
  | cons n _ ih =>
      rw [total_cons]
      omega
  | cons_cons n _ ih =>
      rw [total_cons, total_cons]
      omega

/-! ### Looking up buffers -/

namespace Memory

/-- In a memory without repeated addresses a buffer is found under its address. -/
theorem find?_of_mem {m : Memory} (hnodup : m.addresses.Nodup) {b : Buffer}
    (h : b ∈ m.buffers) : m.find? b.address = some b := by
  unfold find?
  unfold addresses at hnodup
  generalize m.buffers = buffers at hnodup h
  induction buffers with
  | nil => cases h
  | cons c rest ih =>
      rw [List.map_cons, List.nodup_cons] at hnodup
      rcases List.mem_cons.1 h with rfl | h
      · rw [List.find?_cons_of_pos (by simp)]
      · have hne : c.address ≠ b.address := by
          intro heq
          exact hnodup.1 (heq ▸ List.mem_map_of_mem h)
        rw [List.find?_cons_of_neg (by simpa using hne)]
        exact ih hnodup.2 h

theorem mem_of_find?_eq_some {m : Memory} {address : Address} {b : Buffer}
    (h : m.find? address = some b) : b ∈ m.buffers ∧ b.address = address :=
  ⟨List.mem_of_find?_eq_some h, by simpa using List.find?_some h⟩

theorem mem_layout_iff {m : Memory} {a : Allocation} :
    a ∈ m.layout ↔ ∃ b ∈ m.buffers, b.address = a.address ∧ b.bytes.size = a.size := by
  unfold layout
  rw [List.mem_map]
  constructor
  · rintro ⟨b, hb, rfl⟩
    exact ⟨b, hb, rfl, rfl⟩
  · rintro ⟨b, hb, haddress, hsize⟩
    refine ⟨b, hb, ?_⟩
    rw [haddress, hsize]

/-- The size of a live buffer is the one in the layout. -/
theorem size?_of_mem_layout {m : Memory} (hnodup : m.addresses.Nodup) {a : Allocation}
    (h : a ∈ m.layout) : m.size? a.address = some a.size := by
  obtain ⟨b, hb, haddress, hsize⟩ := mem_layout_iff.1 h
  unfold size?
  rw [← haddress, find?_of_mem hnodup hb, Option.map_some, hsize]

/-- A buffer of some size has that many bytes. -/
theorem bytes_of_size? {m : Memory} {address : Address} {size : Nat}
    (h : m.size? address = some size) :
    ∃ buffer, m.bytes address = .ok buffer ∧ buffer.size = size := by
  unfold size? at h
  obtain ⟨b, hfind, hsize⟩ := Option.map_eq_some_iff.1 h
  refine ⟨b.bytes, ?_, hsize⟩
  unfold bytes
  rw [hfind]

/-- Replacing the contents of a buffer by as many bytes leaves the layout as it is. -/
theorem layout_replace {m : Memory} (hnodup : m.addresses.Nodup) {address : Address}
    {bytes : List UInt8} (h : m.size? address = some bytes.length) :
    (m.replace address bytes).layout = m.layout := by
  refine layout_update fun b hb heq => ?_
  have hfind : m.find? address = some b := by
    rw [← heq]
    exact find?_of_mem hnodup hb
  unfold size? at h
  rw [hfind, Option.map_some, Option.some.injEq] at h
  rw [List.size_toArray, h]

/-- A release takes one address out of the layout. -/
theorem layout_release {m m' : Memory} {address : Address} (h : m.release address = some m') :
    m'.layout = m.layout.filter fun a => a.address ≠ address := by
  unfold release at h
  cases hfind : m.find? address with
  | none => simp [hfind] at h
  | some b =>
      simp only [hfind, Option.some.injEq] at h
      subst h
      unfold layout
      rw [List.filter_map]
      rfl

end Memory

namespace Emulated

/-! ### The layout of a device -/

/-- The live buffers, in the order in which they were made. -/
def layout (d : Emulated) : List Allocation :=
  d.memory.layout

theorem map_address_layout (d : Emulated) : d.layout.map Allocation.address = d.live :=
  d.memory.map_address_layout

/-- **What a change does to the live buffers**: it appends the one that it makes, takes away those
of one address, or leaves them all alone. -/
theorem Change.layout {d d' : Emulated} {g : Option Allocation} (h : Change d g d')
    (hnodup : d.live.Nodup) :
    (∃ size, g = some ⟨Address.ofNat d.frontier, size⟩ ∧ size ≤ Memory.largestBuffer ∧
        d.memory.Fits size d'.frontier ∧ d.ready = true ∧
        d'.layout = d.layout ++ [⟨Address.ofNat d.frontier, size⟩]) ∨
      (g = none ∧ ∃ address, d'.layout = d.layout.filter fun a => a.address ≠ address) ∨
      (g = none ∧ d'.layout = d.layout) := by
  cases h with
  | granted size next hready hfault hnext hsize =>
      have hfrontier : (⟨d.memory.buffers ++ [⟨Address.ofNat d.memory.frontier,
          Array.replicate size Memory.poison⟩], next⟩ : Memory).frontier = next :=
        Memory.frontier_of_pos (Nat.zero_lt_of_lt hnext.lt)
      refine Or.inl ⟨size, rfl, hsize, ?_, hready, ?_⟩
      · simp only [frontier, hfrontier]
        exact hnext
      · simp [Emulated.layout, Memory.layout, frontier]
  | released address memory hready hrelease =>
      exact Or.inr (Or.inl ⟨rfl, address, Memory.layout_release hrelease⟩)
  | overwritten address bytes hready hsize =>
      exact Or.inr (Or.inr ⟨rfl, Memory.layout_replace hnodup hsize⟩)
  | executed memory hready hlayout hnext => exact Or.inr (Or.inr ⟨rfl, hlayout⟩)
  | rest => exact Or.inr (Or.inr ⟨rfl, rfl⟩)
  | selected => exact Or.inr (Or.inr ⟨rfl, rfl⟩)
  | cleared => exact Or.inr (Or.inr ⟨rfl, rfl⟩)
  | registered => exact Or.inr (Or.inr ⟨rfl, rfl⟩)
  | interrupted => exact Or.inr (Or.inr ⟨rfl, rfl⟩)
  | queued => exact Or.inr (Or.inr ⟨rfl, rfl⟩)
  | dropped => exact Or.inr (Or.inr ⟨rfl, rfl⟩)

/-- A context is never lost. -/
theorem Change.ready {d d' : Emulated} {g : Option Allocation} (h : Change d g d')
    (hready : d.ready = true) : d'.ready = true := by
  have hparts := hready
  simp only [Emulated.ready, Bool.and_eq_true] at hparts
  cases h with
  | selected ordinal =>
      simp only [Emulated.ready, Option.isSome_some, Bool.true_and]
      exact hparts.2
  | cleared hselected =>
      simp only [Emulated.ready, Bool.and_true]
      exact hselected
  | _ => exact hready

/-- The live buffers lie one behind the other below the frontier. -/
structure Ordered (d : Emulated) : Prop where
  counted : Counted d
  increasing : d.live.Pairwise fun a b => a.toNat < b.toNat
  packed : Word.total (d.layout.map Allocation.size) + Memory.base ≤ d.frontier
  small : ∀ a ∈ d.layout, a.size ≤ Memory.largestBuffer

theorem Ordered.nodup {d : Emulated} (h : Ordered d) : d.live.Nodup := by
  refine h.increasing.imp fun hlt heq => ?_
  rw [heq] at hlt
  exact Nat.lt_irrefl _ hlt

/-- All live buffers together have fewer bytes than there are words. -/
theorem Ordered.total_lt {d : Emulated} (h : Ordered d) :
    Word.total (d.layout.map Allocation.size) < Word.bound := by
  have hpacked := h.packed
  have hbound : d.frontier < Word.bound := h.counted.lt_bound
  omega

theorem Ordered.start_lt {d : Emulated} (h : Ordered d) {a : Allocation} (ha : a ∈ d.layout) :
    a.start < d.frontier := by
  refine h.counted.live_lt a.address ?_
  rw [← map_address_layout]
  exact List.mem_map_of_mem ha

/-- A live buffer has the size that the layout says. -/
theorem Ordered.size? {d : Emulated} (h : Ordered d) {a : Allocation} (ha : a ∈ d.layout) :
    d.memory.size? a.address = some a.size :=
  Memory.size?_of_mem_layout h.nodup ha

/-- **A change keeps the buffers in order**: a new one lies behind all the others. -/
theorem Ordered.change {d d' : Emulated} {g : Option Allocation} (h : Ordered d)
    (hchange : Change d g d') : Ordered d' := by
  obtain ⟨hcounted, hadvances⟩ := h.counted.change hchange
  have hpacked := h.packed
  have hle := hadvances.le
  rcases hchange.layout h.nodup with ⟨size, -, hsize, hfits, -, hlayout⟩ |
    ⟨-, address, hlayout⟩ | ⟨-, hlayout⟩
  · refine ⟨hcounted, ?_, ?_, ?_⟩
    · rw [← map_address_layout, hlayout, List.map_append, map_address_layout]
      refine List.pairwise_append.2 ⟨h.increasing, List.pairwise_singleton _ _, ?_⟩
      intro a ha b hb
      rw [List.map_singleton, List.mem_singleton] at hb
      rw [hb, h.counted.toNat_frontier]
      exact h.counted.live_lt a ha
    · rw [hlayout, List.map_append, Word.total_append]
      have hroom := hfits.le
      change d.frontier + size ≤ d'.frontier at hroom
      simp only [List.map_cons, List.map_nil, Word.total_cons, Word.total_nil]
      omega
    · intro a ha
      rw [hlayout, List.mem_append, List.mem_singleton] at ha
      rcases ha with ha | rfl
      · exact h.small a ha
      · exact hsize
  · have hsublist : d'.layout.Sublist d.layout := by
      rw [hlayout]
      exact List.filter_sublist
    refine ⟨hcounted, ?_, ?_, fun a ha => h.small a (hsublist.subset ha)⟩
    · rw [← map_address_layout]
      refine List.Pairwise.sublist (hsublist.map _) ?_
      rw [map_address_layout]
      exact h.increasing
    · have htotal := Word.total_le_of_sublist (hsublist.map Allocation.size)
      omega
  · refine ⟨hcounted, ?_, ?_, ?_⟩
    · rw [← map_address_layout, hlayout, map_address_layout]
      exact h.increasing
    · rw [hlayout]
      omega
    · rw [hlayout]
      exact h.small

/-! ### Reachable devices -/

/-- A device that operations lead to from a new one.  Between operations it may get another fault
plan and another capacity. -/
inductive Reachable : Emulated → Prop
  | fresh (deviceCount : UInt32) (capacity : Option UInt64) (faults : FaultPlan) :
      Reachable (fresh deviceCount capacity faults)
  | step {d : Emulated} (h : Reachable d) (v : Verbosity) (op : Operation) :
      Reachable (op.next v d)
  | refitted {d : Emulated} (h : Reachable d) (capacity : Option UInt64) (faults : FaultPlan) :
      Reachable { d with capacity, faults }

theorem Ordered.refitted {d : Emulated} (h : Ordered d) (capacity : Option UInt64)
    (faults : FaultPlan) : Ordered { d with capacity, faults } :=
  ⟨⟨h.counted.base_le, h.counted.dvd, h.counted.lt_bound, h.counted.live_lt⟩,
    h.increasing, h.packed, h.small⟩

/-- **The buffers of a reachable device are in order.** -/
theorem Reachable.ordered {d : Emulated} (h : Reachable d) : Ordered d := by
  induction h with
  | fresh deviceCount capacity faults =>
      have hcounted := counted_fresh deviceCount capacity faults
      refine ⟨hcounted, .nil, ?_, fun _ h => nomatch h⟩
      change Word.total [] + Memory.base ≤ _
      rw [Word.total_nil, Nat.zero_add]
      exact hcounted.base_le
  | step _ v op ih => exact ih.change (op.change v _)
  | refitted _ capacity faults ih => exact ih.refitted capacity faults

theorem Reachable.after {d : Emulated} (h : Reachable d) (v : Verbosity) (ops : List Operation) :
    Reachable (after v ops d) := by
  induction ops generalizing d with
  | nil => exact h
  | cons op ops ih => exact ih (h.step v op)

end Emulated

/-! ### What an action leaves alone -/

namespace Act

variable {σ τ α β γ : Type} {part : σ → γ}

/-- However it ends, an action leaves a part of its state as it was. -/
def Keeps (part : σ → γ) (x : Act σ α) : Prop :=
  ∀ v s, part (x v s).state = part s

theorem keeps_ofOutcome (x : Outcome α) : Keeps part (ofOutcome x) :=
  fun _ _ => rfl

theorem keeps_pure (a : α) : Keeps part (pure a : Act σ α) :=
  fun _ _ => rfl

theorem keeps_fail (e : Failure) : Keeps part (fail e : Act σ α) :=
  fun _ _ => rfl

theorem keeps_modify {f : σ → σ} (h : ∀ s, part (f s) = part s) : Keeps part (modify f) :=
  fun _ s => h s

theorem keeps_note (l : Level) (m : String) (fs : Outcome (List Field)) :
    Keeps part (note l m fs) := by
  intro v s
  rw [note_state]

theorem keeps_ite {x y : Act σ α} (c : Prop) [Decidable c] (hx : Keeps part x)
    (hy : Keeps part y) : Keeps part (if c then x else y) := by
  split
  · exact hx
  · exact hy

theorem keeps_onPart {piece : σ → τ} {put : τ → σ → σ} (h : ∀ t s, part (put t s) = part s)
    (x : Act τ α) : Keeps part (x.onPart piece put) :=
  fun _ s => h _ s

theorem Keeps.bind {x : Act σ α} {f : α → Act σ β} (hx : Keeps part x)
    (hf : ∀ a, Keeps part (f a)) : Keeps part (x >>= f) := by
  intro v s
  rw [bind_apply]
  cases (x v s).outcome with
  | ok a => exact (hf a v _).trans (hx v s)
  | error e => exact hx v s
  | panic p => exact hx v s

/-- An action that first looks at its state keeps what its continuation keeps. -/
theorem keeps_get_bind {f : σ → Act σ β} (h : ∀ s, Keeps part (f s)) : Keeps part (get >>= f) :=
  fun v s => h s v s

end Act

namespace Emulated

/-! ### Equipment -/

/-- What a device is equipped with. -/
structure Equipment where
  deviceCount : UInt32
  capacity : Option UInt64
  kernels : List (String × Kernel.Body)
  faults : FaultPlan

/-- The equipment of a device. -/
def equipment (d : Emulated) : Equipment :=
  ⟨d.deviceCount, d.capacity, d.kernels, d.faults⟩

section Keeps

variable {γ : Type} {part : Emulated → γ}

theorem keeps_requireContext (call : DeviceCall) : Act.Keeps part (requireContext call) :=
  Act.keeps_get_bind fun _ => Act.keeps_ite _ (Act.keeps_pure ()) (Act.keeps_fail _)

theorem keeps_injected (call : DeviceCall) (fault : Option Int32) :
    Act.Keeps part (injected call fault) := by
  cases fault with
  | none => exact Act.keeps_pure ()
  | some status => exact Act.keeps_fail _

theorem keeps_guarded {α : Type} {act : Act Emulated α} {call : DeviceCall}
    {fault : Emulated → Option Int32} {x : Emulated → Act Emulated α}
    (hact : act = guarded call fault x) (hx : ∀ d, Act.Keeps part (x d)) :
    Act.Keeps part act := by
  subst hact
  refine (keeps_requireContext call).bind fun _ => ?_
  exact Act.keeps_get_bind fun d => (keeps_injected call (fault d)).bind fun _ => hx d

/-- A launch is only queued. -/
theorem keeps_launch (hpart : ∀ (d : Emulated) pending stats,
      part { d with pending, stats } = part d)
    (kernel : String) (geometry : Geometry) (args : List Arg) :
    Act.Keeps part (launch kernel geometry args) := by
  refine keeps_guarded (rfl : launch kernel geometry args =
    guarded .launch (fun d => d.faults.launch) _) fun d => ?_
  exact Act.keeps_ite _ (Act.keeps_fail _) (Act.keeps_modify fun d => hpart d _ _)

/-- A synchronization keeps what its launches keep. -/
theorem keeps_synchronize (hpart : ∀ (d : Emulated) pending stats,
      part { d with pending, stats } = part d)
    (hrun : ∀ ls, Act.Keeps part (runLaunches ls)) : Act.Keeps part synchronize := by
  refine (keeps_requireContext _).bind fun _ => Act.keeps_get_bind fun d => ?_
  cases d.faults.synchronize with
  | none => exact Act.Keeps.bind (Act.keeps_modify fun d => hpart d _ _) fun _ => hrun _
  | some status =>
      exact Act.Keeps.bind (Act.keeps_modify fun d => hpart d _ d.stats) fun _ => Act.keeps_fail _

end Keeps

theorem equipment_select (ordinal : UInt32) : Act.Keeps equipment (select ordinal) :=
  Act.keeps_get_bind fun _ => Act.keeps_ite _ (Act.keeps_fail _) (Act.keeps_modify fun _ => rfl)

theorem equipment_reset : Act.Keeps equipment reset := by
  refine Act.keeps_get_bind fun d => Act.keeps_ite _ (Act.keeps_fail _) ?_
  exact (keeps_injected _ _).bind fun _ => Act.keeps_modify fun _ => rfl

theorem equipment_allocate (size : Nat) : Act.Keeps equipment (allocate size) := by
  refine keeps_guarded (rfl : allocate size = guarded .allocate allocationFault _) fun d => ?_
  refine Act.Keeps.bind ?_ fun address => ?_
  · refine Act.keeps_onPart ?_ _
    intro m d
    rfl
  refine Act.Keeps.bind (Act.keeps_modify fun _ => rfl) fun _ => ?_
  exact (Act.keeps_note _ _ _).bind fun _ => Act.keeps_pure address

theorem equipment_free (address : Address) : Act.Keeps equipment (free address) := by
  refine keeps_guarded (rfl : free address = guarded .free (fun d => d.faults.free) _)
    fun d => ?_
  cases d.memory.release address with
  | none => exact Act.keeps_fail _
  | some memory =>
      exact Act.Keeps.bind (Act.keeps_modify fun _ => rfl) fun _ => Act.keeps_note _ _ _

theorem equipment_copyToDevice (address : Address) (bytes : List UInt8) :
    Act.Keeps equipment (copyToDevice address bytes) := by
  refine keeps_guarded (rfl : copyToDevice address bytes =
    guarded .copyToDevice (fun d => d.faults.copyToDevice) _) fun d => ?_
  refine (Act.keeps_ofOutcome _).bind fun size => ?_
  exact Act.keeps_ite _ (Act.keeps_modify fun _ => rfl) (Act.keeps_fail _)

theorem equipment_runLaunches (ls : List Launch) : Act.Keeps equipment (runLaunches ls) := by
  intro v d
  obtain ⟨m, hstate, -, -⟩ := runLaunches_state ls v d
  rw [hstate]
  rfl

end Emulated

/-- **No call changes the equipment of a device.** -/
theorem Operation.equipment_call (v : Verbosity) (d : Emulated) (c : Call) :
    ((Operation.call c).next v d).equipment = d.equipment := by
  match c with
  | .select ordinal => exact Emulated.equipment_select ordinal v d
  | .reset => exact Emulated.equipment_reset v d
  | .allocate size => exact Emulated.equipment_allocate size v d
  | .free address => exact Emulated.equipment_free address v d
  | .copyToDevice address bytes => exact Emulated.equipment_copyToDevice address bytes v d
  | .copyFromDevice address size =>
      exact congrArg Emulated.equipment (Emulated.read_state address size v d)
  | .launch kernel geometry args =>
      exact Emulated.keeps_launch (fun _ _ _ => rfl) kernel geometry args v d
  | .synchronize =>
      exact Emulated.keeps_synchronize (fun _ _ _ => rfl) Emulated.equipment_runLaunches v d

namespace Emulated

/-! ### Calls and the layout -/

theorem layout_launch (kernel : String) (geometry : Geometry) (args : List Arg) :
    Act.Keeps layout (launch kernel geometry args) :=
  keeps_launch (fun _ _ _ => rfl) kernel geometry args

/-- Kernels make, free and resize no buffers. -/
theorem layout_synchronize : Act.Keeps layout synchronize := by
  refine keeps_synchronize (fun _ _ _ => rfl) fun ls v d => ?_
  obtain ⟨m, hstate, hlayout, -⟩ := runLaunches_state ls v d
  rw [hstate]
  exact hlayout

theorem layout_copyToDevice {d : Emulated} (hnodup : d.live.Nodup) (address : Address)
    (bytes : List UInt8) (v : Verbosity) :
    (copyToDevice address bytes v d).state.layout = d.layout := by
  rcases copyToDevice_cases address bytes v d with ⟨e, -, hstate⟩ | ⟨-, hsize, -, hstate⟩
  · rw [hstate]
  · rw [hstate]
    exact Memory.layout_replace hnodup hsize

/-- What an allocation does to the buffers: one that is refused makes none, even if the counter has
moved, and one that is granted puts a buffer behind the others. -/
theorem allocate_buffers (size : Nat) (v : Verbosity) (d : Emulated) :
    ((∀ a, (allocate size v d).outcome ≠ .ok a) ∧
        (allocate size v d).state.memory.buffers = d.memory.buffers) ∨
      (size ≤ Memory.largestBuffer ∧
        (allocate size v d).outcome = .ok (Address.ofNat d.frontier) ∧
        (allocate size v d).state.memory.buffers = d.memory.buffers ++
          [⟨Address.ofNat d.frontier, Array.replicate size Memory.poison⟩]) := by
  rcases guarded_cases (rfl : allocate size = guarded .allocate allocationFault _) v d with
    ⟨e, hcall⟩ | ⟨-, -, hcall⟩
  · rw [hcall]
    exact Or.inl ⟨fun a h => (nomatch h), rfl⟩
  · rw [hcall]
    rcases d.memory.allocate_cases size with ⟨next, -, hsize, hok⟩ | ⟨next, -, hrefused, hstate⟩
    · refine Or.inr ⟨hsize, ?_⟩
      rw [Act.bind_of_ok (congrArg Prod.fst hok)]
      exact ⟨rfl, congrArg (fun r => r.2.buffers) hok⟩
    · have hbuffers : (d.memory.allocate size).2.buffers = d.memory.buffers := by
        rw [hstate]
      refine Or.inl ?_
      rw [Act.bind_apply]
      split
      · rename_i address hreply
        exact absurd hreply (hrefused address)
      · exact ⟨fun a h => (nomatch h), hbuffers⟩
      · exact ⟨fun a h => (nomatch h), hbuffers⟩

theorem layout_allocate_of_refused {size : Nat} {v : Verbosity} {d : Emulated}
    (h : ∀ a, (allocate size v d).outcome ≠ .ok a) :
    (allocate size v d).state.layout = d.layout := by
  rcases allocate_buffers size v d with ⟨-, hbuffers⟩ | ⟨-, hok, -⟩
  · unfold layout Memory.layout
    rw [hbuffers]
  · exact absurd hok (h _)

/-- An allocation that is granted lies at the frontier. -/
theorem allocate_of_ok {size : Nat} {v : Verbosity} {d : Emulated} {address : Address}
    (h : (allocate size v d).outcome = .ok address) :
    address = Address.ofNat d.frontier ∧
      Change d (some ⟨Address.ofNat d.frontier, size⟩) (allocate size v d).state := by
  rcases allocate_buffers size v d with ⟨hrefused, -⟩ | ⟨-, hok, -⟩
  · exact absurd h (hrefused address)
  · have hchange := change_allocate size v d
    rw [hok] at h hchange
    exact ⟨(Outcome.ok.inj h).symm, hchange⟩

/-! ### Calls on live buffers -/

/-- How a call ends if only an injected fault can stop it. -/
def unlessInjected {α : Type} (call : DeviceCall) (fault : Option Int32) (x : Outcome α) :
    Outcome α :=
  match fault with
  | some status => .error (.deviceCall call status)
  | none => x

variable {d : Emulated}

theorem guarded_outcome {α : Type} {act : Act Emulated α} {call : DeviceCall}
    {fault : Emulated → Option Int32} {x : Emulated → Act Emulated α} {reply : Outcome α}
    (hact : act = guarded call fault x) (hready : d.ready = true) {v : Verbosity}
    (hx : (x d v d).outcome = reply) :
    (act v d).outcome = unlessInjected call (fault d) reply := by
  cases hfault : fault d with
  | none =>
      rw [guarded_of_ready hact hready hfault, hx]
      rfl
  | some status =>
      rw [guarded_of_fault hact hready hfault]
      rfl

/-- A live buffer is freed, unless the device is told to refuse that. -/
theorem free_of_live (hready : d.ready = true) {address : Address} (hlive : address ∈ d.live)
    (v : Verbosity) :
    (free address v d).outcome = unlessInjected .free d.faults.free (.ok ()) := by
  refine guarded_outcome (rfl : free address = guarded .free (fun d => d.faults.free) _) hready ?_
  have hfind : ∃ b, d.memory.find? address = some b := by
    cases hfind : d.memory.find? address with
    | none => exact absurd hlive (Memory.find?_eq_none_iff.1 hfind)
    | some b => exact ⟨b, rfl⟩
  obtain ⟨b, hfind⟩ := hfind
  have hrelease : d.memory.release address =
      some { d.memory with buffers := d.memory.buffers.filter fun b => b.address ≠ address } := by
    unfold Memory.release
    rw [hfind]
  rw [hrelease]
  rfl

/-- A live buffer takes as many bytes as it has, unless the device is told to refuse that. -/
theorem copyToDevice_of_live (hready : d.ready = true) {address : Address} {bytes : List UInt8}
    (hsize : d.memory.size? address = some bytes.length) (v : Verbosity) :
    (copyToDevice address bytes v d).outcome =
      unlessInjected .copyToDevice d.faults.copyToDevice (.ok ()) := by
  refine guarded_outcome (rfl : copyToDevice address bytes =
    guarded .copyToDevice (fun d => d.faults.copyToDevice) _) hready ?_
  have hword : d.memory.size address = .ok bytes.length := by
    simp [Memory.size, hsize]
  rw [hword, Act.bind_of_ok rfl, if_pos rfl]
  rfl

/-- A live buffer gives back its bytes, unless the device is told to refuse that. -/
theorem read_of_live (hready : d.ready = true) {address : Address}
    {buffer : Array UInt8} (hbytes : d.memory.bytes address = .ok buffer) {size : Nat}
    (hsize : buffer.size = size) (v : Verbosity) :
    (Device.read address size v d).outcome =
      unlessInjected .copyFromDevice d.faults.copyFromDevice (.ok buffer.toList) := by
  refine guarded_outcome (read_eq_contents address size) hready ?_
  rw [hbytes, Act.bind_of_ok rfl, if_pos hsize]
  rfl

end Emulated

end Offload
