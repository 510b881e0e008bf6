/-
**The list of a session and the buffers of its device.**

A session keeps a list of what it owns, and the device keeps its buffers.  The two are updated apart
from each other: an early free takes an allocation off the list even if the device refuses it, and a
copy may fail after the allocation was recorded.  Still they agree after every sequence of requests.
What was on the device before stays where it was; behind it lie the buffers that the session made,
and the list is a part of them, in the same order.  If the device refuses no free, it is all of
them.

A typed slice remembers an address and a length.  Addresses are not given out twice, so as long as
the session owns the address of a slice, it owns it with the size that the slice asks for.

Main definitions:

* `Offload.Session.Turn` — everything that a request can do to a session;
* `Offload.Session.Agrees` — the list agrees with the buffers;
* `Offload.Session.Pins` — an address can only be owned with one size;
* `Offload.Slice.Source` — the programs that make slices.

Main results:

* `Offload.Workspace.turn_answer` — every request is a turn;
* `Offload.Session.Agrees.turn`, `Offload.Workspace.agrees_after` — one request, and every sequence
  of requests, keeps the list and the buffers in agreement;
* `Offload.Session.tracker_agrees_with_device` — **the list of a session agrees with its device**.
-/

import Offload.Proofs.Requests
import Offload.Proofs.Emulated.Bookkeeping
import Offload.Session.KernelUnit
import Mathlib.Data.List.Nodup

set_option autoImplicit false

namespace Offload

/-- Where addresses are not repeated, taking out the first entry of an address takes out all. -/
theorem Allocation.eraseP_eq_filter {l : List Allocation} (h : (l.map address).Nodup)
    (a : Address) :
    (l.eraseP fun b => b.address = a) = l.filter fun b => b.address ≠ a := by
  induction l with
  | nil => rfl
  | cons b rest ih =>
      rw [List.map_cons, List.nodup_cons] at h
      by_cases heq : b.address = a
      · have hrest : rest.filter (fun c => c.address ≠ a) = rest := by
          refine List.filter_eq_self.2 fun c hc => ?_
          have hne : c.address ≠ a := by
            rintro rfl
            exact h.1 (heq ▸ List.mem_map_of_mem hc)
          simpa using hne
        rw [List.eraseP_cons_of_pos (by simpa using heq),
          List.filter_cons_of_neg (by simpa using heq), hrest]
      · rw [List.eraseP_cons_of_neg (by simpa using heq),
          List.filter_cons_of_pos (by simpa using heq), ih h.2]

namespace Session

/-! ### Turns -/

/-- What a session owns is live, with the sizes that it has noted. -/
structure Held (s : Session Emulated) : Prop where
  ordered : s.device.Ordered
  sublist : s.tracked.Sublist s.device.layout

variable {s s' : Session Emulated}

theorem Held.nodup (h : s.Held) : (s.tracked.map Allocation.address).Nodup := by
  refine (h.sublist.map Allocation.address).nodup ?_
  rw [Emulated.map_address_layout]
  exact h.ordered.nodup

/-- The next address of the device is new to the session. -/
theorem Held.not_owns_frontier (h : s.Held) :
    s.owns (Address.ofNat s.device.frontier) = false := by
  rw [Bool.eq_false_iff]
  intro howns
  obtain ⟨a, ha, heq⟩ := List.mem_map.1 ((owns_iff s _).1 howns)
  have hlt := h.ordered.start_lt (h.sublist.subset ha)
  rw [Allocation.start, heq, h.ordered.counted.toNat_frontier] at hlt
  exact Nat.lt_irrefl _ hlt

/-- Everything that a request can do to a session, and the allocation that it makes. -/
inductive Turn (s : Session Emulated) : Option Allocation → Session Emulated → Prop
  /-- The device is used, and no memory is moved. -/
  | used (d : Emulated) (hchange : s.device.Change none d) (hlayout : d.layout = s.device.layout) :
      Turn s none { s with device := d }
  /-- A buffer is made at the frontier, and recorded. -/
  | granted (size : Nat) (d : Emulated) (hsize : size ≠ 0)
      (hchange : s.device.Change (some ⟨Address.ofNat s.device.frontier, size⟩) d) :
      Turn s (some ⟨Address.ofNat s.device.frontier, size⟩) { s with
        device := d
        tracked := s.tracked ++ [⟨Address.ofNat s.device.frontier, size⟩] }
  /-- An address of the session is freed, unless the device refuses. -/
  | freed (address : Address) (v : Verbosity) (howns : s.owns address = true) :
      Turn s none { s with
        device := (Emulated.free address v s.device).state
        tracked := s.tracked.eraseP fun a => a.address = address
        earlyFrees := s.earlyFrees + 1 }

theorem Turn.rest (s : Session Emulated) : Turn s none s :=
  .used s.device .rest rfl

/-- What a turn makes is recorded. -/
theorem Turn.mem_tracked {a : Allocation} (h : s.Turn (some a) s') : a ∈ s'.tracked := by
  cases h with
  | granted => exact List.mem_append_right _ List.mem_cons_self

theorem granted?_of_not_ok {size : Nat} {x : Outcome Address} (h : ∀ a, x ≠ .ok a) :
    Emulated.granted? size x = none := by
  cases x with
  | ok a => exact absurd rfl (h a)
  | error e => rfl
  | panic p => rfl

/-- **What the device grants is recorded**: its address is new to the session, and the bytes that
the session then owns are among those of the live buffers. -/
theorem Held.allocate (h : s.Held) {size : Nat} {address : Address} {v : Verbosity}
    (hsize : size ≠ 0) (hfits : (ensureFits size v s).outcome = .ok ())
    (hreply : (Emulated.allocate size v s.device).outcome = .ok address) :
    (Session.allocate size v s).outcome = .ok address ∧
      (Session.allocate size v s).state = { s with
        device := (Emulated.allocate size v s.device).state
        tracked := s.tracked ++ [⟨address, size⟩] } := by
  obtain ⟨rfl, hchange⟩ := Emulated.allocate_of_ok hreply
  refine allocate_of_granted hsize hfits hreply h.not_owns_frontier ?_
  have htotal := (h.ordered.change hchange).total_lt
  have hpart := Word.total_le_of_sublist (h.sublist.map Allocation.size)
  rcases hchange.layout h.ordered.nodup with ⟨size', heq, -, -, -, hlayout⟩ | ⟨heq, -⟩ | ⟨heq, -⟩
  · cases heq
    rw [hlayout, List.map_append, Word.total_append, List.map_singleton, Word.total_cons,
      Word.total_nil] at htotal
    dsimp only at htotal
    omega
  · cases heq
  · cases heq

theorem turn_allocate (h : s.Held) (size : Nat) (v : Verbosity) :
    Turn s (Emulated.granted? size (allocate size v s).outcome) (allocate size v s).state := by
  rcases allocate_cases size v s with ⟨hrefused, hstate⟩ | ⟨hreply, hrefused, hstate⟩ |
    ⟨hsize, hfits, address, hreply⟩
  · rw [granted?_of_not_ok hrefused, hstate]
    exact .rest s
  · have hchange := Emulated.change_allocate size v s.device
    have hreply : ∀ a, (Emulated.allocate size v s.device).outcome ≠ .ok a := hreply
    rw [granted?_of_not_ok hreply] at hchange
    rw [granted?_of_not_ok hrefused, hstate]
    exact .used _ hchange (Emulated.layout_allocate_of_refused hreply)
  · obtain ⟨houtcome, hstate⟩ := h.allocate hsize hfits hreply
    obtain ⟨rfl, hchange⟩ := Emulated.allocate_of_ok hreply
    rw [houtcome, hstate]
    exact .granted size _ hsize hchange

theorem turn_free (address : Address) (v : Verbosity) (s : Session Emulated) :
    Turn s none (free address v s).state := by
  cases howns : s.owns address with
  | true =>
      rw [(free_of_owned howns v).2]
      exact .freed address v howns
  | false =>
      rw [free_of_unowned howns v]
      exact .rest s

end Session

/-- **Every request is a turn.** -/
theorem Workspace.turn_answer {τ : Type} (q : Request τ) (v : Verbosity)
    {w : Workspace Emulated τ} (h : w.session.Held) :
    Session.Turn w.session (grant? v w q) (answer q v w).state.session := by
  cases q with
  | allocate size => exact Session.turn_allocate h size v
  | free address => exact Session.turn_free address v w.session
  | store address bytes =>
      exact .used _ (Emulated.change_copyToDevice address bytes v w.session.device)
        (Emulated.layout_copyToDevice h.ordered.nodup address bytes v)
  | fetch address size =>
      have hstate := Session.fetch_state address size v w.session
      exact (congrArg (Session.Turn _ none) hstate).mpr (.rest _)
  | launch kernel geometry args =>
      rcases Session.launch_state kernel geometry args v w.session with hstate | hstate
      · exact (congrArg (Session.Turn _ none) hstate).mpr (.rest _)
      · refine (congrArg (Session.Turn _ none) hstate).mpr ?_
        exact .used _ (Emulated.change_launch kernel geometry args v w.session.device)
          (Emulated.layout_launch kernel geometry args v w.session.device)
  | synchronize =>
      exact .used _ (Emulated.change_synchronize v w.session.device)
        (Emulated.layout_synchronize v w.session.device)
  | inspect => exact .rest _
  | note level message fields =>
      have hstate : (answer (.note level message fields) v w).state = w := Act.note_state ..
      exact hstate ▸ .rest _
  | load => exact .rest _
  | save data => exact .rest _

/-- One request leaves what the session owns live. -/
theorem Session.Held.turn {s s' : Session Emulated} {g : Option Allocation} (h : s.Held)
    (hturn : s.Turn g s') : s'.Held := by
  cases hturn with
  | used d hchange hlayout => exact ⟨h.ordered.change hchange, hlayout ▸ h.sublist⟩
  | granted size d hsize hchange =>
      refine ⟨h.ordered.change hchange, ?_⟩
      rcases hchange.layout h.ordered.nodup with ⟨size', heq, -, -, -, hlayout⟩ | ⟨heq, -⟩ |
        ⟨heq, -⟩
      · cases heq
        exact hlayout ▸ h.sublist.append (.refl _)
      · cases heq
      · cases heq
  | freed address v howns =>
      refine ⟨h.ordered.change (Emulated.change_free address v s.device), ?_⟩
      rcases Emulated.free_cases address v s.device with ⟨e, -, hstate⟩ |
        ⟨memory, -, hrelease, -, hstate⟩
      · rw [hstate]
        exact List.eraseP_sublist.trans h.sublist
      · have hlayout : memory.layout = s.device.layout.filter fun a => a.address ≠ address :=
          Memory.layout_release hrelease
        rw [hstate, Allocation.eraseP_eq_filter h.nodup]
        change List.Sublist _ memory.layout
        rw [hlayout]
        exact h.sublist.filter _

/-- **What every turn keeps, every sequence of requests keeps.**  The invariant may speak of the
allocations made so far. -/
theorem Workspace.after_invariant {τ : Type} {I : List Allocation → Session Emulated → Prop}
    (held : ∀ {made s}, I made s → s.Held)
    (turn : ∀ {made s g s'}, I made s → s.Turn g s' → I (made ++ g.toList) s')
    (v : Verbosity) (qs : List (Request τ)) (made : List Allocation) {w : Workspace Emulated τ}
    (h : I made w.session) : I (made ++ grants v qs w) (after v qs w).session := by
  induction qs generalizing made w with
  | nil =>
      rw [grants, List.append_nil]
      exact h
  | cons q qs ih =>
      rw [grants, ← List.append_assoc]
      exact ih _ (turn h (turn_answer q v (held h)))

namespace Session

/-! ### Agreement -/

/-- The list of a session agrees with the buffers of its device, which was `old` when the session
began.  The allocations `made` are those that succeeded since. -/
structure Agrees (old : Emulated) (made : List Allocation) (s : Session Emulated) : Prop where
  ordered : s.device.Ordered
  faults : s.device.faults = old.faults
  frontier_le : old.frontier ≤ s.device.frontier
  ready : made ≠ [] → s.device.ready = true
  /-- Behind the old buffers lie those of the session, and nothing else. -/
  own : ∃ own, s.device.layout = old.layout ++ own ∧ s.tracked.Sublist own ∧
    (∀ a ∈ own, old.frontier ≤ a.start) ∧ (old.faults.free = none → own = s.tracked)
  sublist : s.tracked.Sublist made
  count : made.length = s.tracked.length + s.earlyFrees
  positive : ∀ a ∈ made, 0 < a.size

variable {old : Emulated} {made : List Allocation} {s s' : Session Emulated}

theorem Agrees.held (h : Agrees old made s) : s.Held := by
  obtain ⟨own, hlayout, hsublist, -⟩ := h.own
  refine ⟨h.ordered, ?_⟩
  rw [hlayout]
  exact hsublist.trans (List.sublist_append_right _ _)

/-- A session owns nothing that was live before it began. -/
theorem Agrees.not_live (h : Agrees old made s) (hold : old.Ordered) {a : Allocation}
    (ha : a ∈ s.tracked) : a.address ∉ old.live := by
  intro hlive
  obtain ⟨own, -, hsublist, hplaced, -⟩ := h.own
  have hle : old.frontier ≤ a.start := hplaced a (hsublist.subset ha)
  have hlt : a.start < old.frontier := hold.counted.live_lt a.address hlive
  exact Nat.lt_irrefl _ (Nat.lt_of_lt_of_le hlt hle)

theorem agrees_start (hold : old.Ordered) (config : Config) : Agrees old [] (start old config) :=
  ⟨hold, rfl, Nat.le_refl _, fun h => absurd rfl h,
    ⟨[], (List.append_nil _).symm, .slnil, fun _ h => (nomatch h), fun _ => rfl⟩,
    .slnil, rfl, fun _ h => nomatch h⟩

/-- The owner of an address that the session owns is ready to free it. -/
theorem Agrees.ready_of_mem (h : Agrees old made s) {a : Allocation} (ha : a ∈ s.tracked) :
    s.device.ready = true := by
  refine h.ready ?_
  rintro rfl
  exact List.not_mem_nil (h.sublist.subset ha)

/-- The old buffers are not touched by what happens to addresses of the session. -/
theorem filter_old (hold : old.Ordered) {address : Address} (h : old.frontier ≤ address.toNat) :
    (old.layout.filter fun a => a.address ≠ address) = old.layout := by
  refine List.filter_eq_self.2 fun a ha => ?_
  have hne : a.address ≠ address := by
    rintro rfl
    exact Nat.lt_irrefl _ (Nat.lt_of_lt_of_le (hold.start_lt ha) h)
  simpa using hne

/-- An early free keeps the agreement, whether or not the device refuses. -/
theorem Agrees.free (h : Agrees old made s) (hold : old.Ordered) {address : Address}
    (howns : s.owns address = true) (v : Verbosity) :
    Agrees old made { s with
      device := (Emulated.free address v s.device).state
      tracked := s.tracked.eraseP fun a => a.address = address
      earlyFrees := s.earlyFrees + 1 } := by
  have hchange := Emulated.change_free address v s.device
  obtain ⟨own, hlayout, hsublist, hplaced, hall⟩ := h.own
  obtain ⟨a, ha, rfl⟩ := List.mem_map.1 ((owns_iff s address).1 howns)
  have hready := h.ready_of_mem ha
  have hlength : (s.tracked.eraseP fun b => b.address = a.address).length + 1 =
      s.tracked.length := by
    have hpos := List.length_pos_of_mem ha
    rw [List.length_eraseP_of_mem ha (by simp)]
    omega
  have hcount : made.length = (s.tracked.eraseP fun b => b.address = a.address).length +
      (s.earlyFrees + 1) := by
    have := h.count
    omega
  refine ⟨h.ordered.change hchange, hchange.faults_eq.trans h.faults,
    Nat.le_trans h.frontier_le (h.ordered.counted.change hchange).2.le,
    fun _ => hchange.ready hready, ?_, List.eraseP_sublist.trans h.sublist, hcount, h.positive⟩
  rcases Emulated.free_cases a.address v s.device with ⟨e, herror, hstate⟩ |
    ⟨memory, -, hrelease, -, hstate⟩
  · -- the device refuses, which it does only if it is told to
    rw [hstate]
    refine ⟨own, hlayout, List.eraseP_sublist.trans hsublist, hplaced, fun hfault => ?_⟩
    have hlive : a.address ∈ s.device.live := by
      rw [← Emulated.map_address_layout]
      exact List.mem_map_of_mem (h.held.sublist.subset ha)
    have hok := Emulated.free_of_live hready hlive v
    rw [h.faults, hfault, herror] at hok
    cases hok
  · have hfiltered : (Emulated.free a.address v s.device).state.layout =
        old.layout ++ own.filter fun b => b.address ≠ a.address := by
      rw [hstate]
      change memory.layout = _
      have hle : old.frontier ≤ a.address.toNat := hplaced a (hsublist.subset ha)
      rw [Memory.layout_release hrelease]
      change s.device.layout.filter _ = _
      rw [hlayout, List.filter_append, filter_old hold hle]
    refine ⟨_, hfiltered, ?_, fun b hb => hplaced b (List.mem_filter.1 hb).1, fun hfault => ?_⟩
    · rw [Allocation.eraseP_eq_filter h.held.nodup]
      exact hsublist.filter _
    · rw [hall hfault, Allocation.eraseP_eq_filter h.held.nodup]

/-- **One request keeps the list and the buffers in agreement.** -/
theorem Agrees.turn (hold : old.Ordered) {g : Option Allocation} (h : Agrees old made s)
    (hturn : s.Turn g s') : Agrees old (made ++ g.toList) s' := by
  cases hturn with
  | used d hchange hlayout =>
      rw [Option.toList_none, List.append_nil]
      refine ⟨h.ordered.change hchange, hchange.faults_eq.trans h.faults,
        Nat.le_trans h.frontier_le (h.ordered.counted.change hchange).2.le,
        fun hmade => hchange.ready (h.ready hmade), ?_, h.sublist, h.count, h.positive⟩
      obtain ⟨own, hown, hrest⟩ := h.own
      exact ⟨own, hlayout.trans hown, hrest⟩
  | freed address v howns =>
      rw [Option.toList_none, List.append_nil]
      exact h.free hold howns v
  | granted size d hsize hchange =>
      rw [Option.toList_some]
      obtain ⟨own, hown, hsublist, hplaced, hall⟩ := h.own
      rcases hchange.layout h.ordered.nodup with ⟨size', heq, -, -, hready, hlayout⟩ |
        ⟨heq, -⟩ | ⟨heq, -⟩
      · cases heq
        refine ⟨h.ordered.change hchange, hchange.faults_eq.trans h.faults,
          Nat.le_trans h.frontier_le (h.ordered.counted.change hchange).2.le,
          fun _ => hchange.ready hready, ⟨own ++ [_], ?_, hsublist.append (.refl _), ?_, ?_⟩,
          h.sublist.append (.refl _), ?_, ?_⟩
        · rw [hlayout, hown, List.append_assoc]
        · intro a ha
          rw [List.mem_append, List.mem_singleton] at ha
          rcases ha with ha | rfl
          · exact hplaced a ha
          · rw [Allocation.start, h.ordered.counted.toNat_frontier]
            exact h.frontier_le
        · intro hfault
          rw [hall hfault]
        · have := h.count
          simp only [List.length_append, List.length_singleton]
          omega
        · intro a ha
          rw [List.mem_append, List.mem_singleton] at ha
          rcases ha with ha | rfl
          · exact h.positive a ha
          · exact Nat.pos_of_ne_zero hsize
      · cases heq
      · cases heq

end Session

/-- **Every sequence of requests keeps the list and the buffers in agreement.** -/
theorem Workspace.agrees_after {τ : Type} {old : Emulated} (hold : old.Ordered) (v : Verbosity)
    (qs : List (Request τ)) {made : List Allocation} {w : Workspace Emulated τ}
    (h : w.session.Agrees old made) :
    (after v qs w).session.Agrees old (made ++ grants v qs w) :=
  after_invariant (I := Session.Agrees old) Session.Agrees.held (Session.Agrees.turn hold) v qs
    made h

theorem Program.agrees_perform {τ α : Type} {old : Emulated} (hold : old.Ordered)
    (p : Program τ α) (v : Verbosity) {made : List Allocation} {w : Workspace Emulated τ}
    (h : w.session.Agrees old made) :
    ∃ later, (p.perform v w).state.session.Agrees old (made ++ later) := by
  rw [perform_state]
  exact ⟨_, Workspace.agrees_after hold v _ h⟩

/-! ### Slices -/

namespace Slice

variable {τ α : Type} [Pod α]

/-- The allocation that a slice stands for. -/
def allocation (s : Slice α) : Allocation :=
  ⟨s.address, s.length * Pod.width α⟩

/-- The programs that make slices. -/
inductive Source : Program τ (Slice α) → Prop
  | allocated (length : Nat) : Source (Program.allocSlice α length)
  | copied (host : List α) : Source (Program.uploadSlice host)
  | single (value : α) : Source (Program.upload value)
  /-- The results of a kernel unit. -/
  | launched {ε : Type} [Pod ε] (u : KernelUnit ε α) (env : ε) : Source (u.launch env)

end Slice

namespace Session

/-- The address of an allocation was given out, and the session can own it only as it is. -/
def Pins (a : Allocation) (s : Session Emulated) : Prop :=
  a.start < s.device.frontier ∧ ∀ b ∈ s.tracked, b.address = a.address → b = a

variable {a : Allocation} {s s' : Session Emulated}

theorem Held.pins (h : s.Held) (ha : a ∈ s.tracked) : Pins a s := by
  refine ⟨h.ordered.start_lt (h.sublist.subset ha), fun b hb heq => ?_⟩
  exact List.inj_on_of_nodup_map h.nodup hb ha heq

/-- A turn keeps an allocation pinned: what is given out is a new address. -/
theorem Pins.turn (h : Pins a s) (hheld : s.Held) {g : Option Allocation} (hturn : s.Turn g s') :
    Pins a s' := by
  cases hturn with
  | used d hchange hlayout =>
      exact ⟨Nat.lt_of_lt_of_le h.1 (hheld.ordered.counted.change hchange).2.le, h.2⟩
  | granted size d hsize hchange =>
      refine ⟨Nat.lt_of_lt_of_le h.1 (hheld.ordered.counted.change hchange).2.le, ?_⟩
      intro b hb heq
      rw [List.mem_append, List.mem_singleton] at hb
      rcases hb with hb | rfl
      · exact h.2 b hb heq
      · have hlt := h.1
        rw [Allocation.start, ← heq, hheld.ordered.counted.toNat_frontier] at hlt
        exact absurd hlt (Nat.lt_irrefl _)
  | freed address v howns =>
      have hchange := Emulated.change_free address v s.device
      refine ⟨Nat.lt_of_lt_of_le h.1 (hheld.ordered.counted.change hchange).2.le, ?_⟩
      intro b hb heq
      exact h.2 b (List.mem_of_mem_eraseP hb) heq

end Session

section Pinned

variable {τ α : Type} {old : Emulated} {made : List Allocation} {a : Allocation}
  {w : Workspace Emulated τ}

theorem Workspace.pins_after (hold : old.Ordered) (v : Verbosity) (qs : List (Request τ))
    (h : w.session.Agrees old made) (hpins : w.session.Pins a) :
    (after v qs w).session.Pins a :=
  (after_invariant (I := fun made s => s.Agrees old made ∧ s.Pins a) (fun h => h.1.held)
    (fun h hturn => ⟨h.1.turn hold hturn, h.2.turn h.1.held hturn⟩) v qs made ⟨h, hpins⟩).2

theorem Program.pins_perform (hold : old.Ordered) (p : Program τ α) (v : Verbosity)
    (h : w.session.Agrees old made) (hpins : w.session.Pins a) :
    (p.perform v w).state.session.Pins a := by
  rw [perform_state]
  exact Workspace.pins_after hold v _ h hpins

/-- A new array is pinned. -/
theorem Program.pins_allocSlice (hold : old.Ordered) [Pod α] {length : Nat} {v : Verbosity}
    (h : w.session.Agrees old made) {s : Slice α}
    (hok : ((allocSlice α length).perform v w).outcome = .ok s) :
    ((allocSlice α length).perform v w).state.session.Pins s.allocation := by
  obtain ⟨rfl, haddress, hstate⟩ := allocSlice_eq_ok hok
  have hturn := Workspace.turn_answer (.allocate (s.length * Pod.width α)) v h.held
  have hagrees := h.turn hold hturn
  rw [hstate]
  refine hagrees.held.pins ?_
  simp only [Workspace.grant?, haddress, Emulated.granted?] at hturn
  exact hturn.mem_tracked

/-- An array that was made before another program is pinned after it. -/
theorem Program.pins_bind (hold : old.Ordered) [Pod α] {p : Program τ (Slice α)}
    {f : Slice α → Program τ (Slice α)} {v : Verbosity} (h : w.session.Agrees old made)
    {s : Slice α} (hok : (Program.perform (p >>= f) v w).outcome = .ok s)
    (hp : ∀ {s}, (p.perform v w).outcome = .ok s →
      (p.perform v w).state.session.Pins s.allocation)
    (hf : ∀ {s' v} {w : Workspace Emulated τ}, ((f s').perform v w).outcome = .ok s → s' = s) :
    (Program.perform (p >>= f) v w).state.session.Pins s.allocation := by
  obtain ⟨s', hs', hlater⟩ := bind_eq_ok.1 hok
  obtain rfl := hf hlater
  obtain ⟨_, hagrees⟩ := p.agrees_perform hold v h
  rw [bind_state_of_ok hs']
  exact (f s').pins_perform hold v hagrees (hp hs')

/-- **Every slice that a session makes is pinned.** -/
theorem Slice.Source.pins (hold : old.Ordered) [Pod α] {p : Program τ (Slice α)}
    (hp : Slice.Source p) {v : Verbosity} (h : w.session.Agrees old made) {s : Slice α}
    (hok : (p.perform v w).outcome = .ok s) :
    (p.perform v w).state.session.Pins s.allocation := by
  have hupload : ∀ {host : List α}, ((Program.uploadSlice host).perform v w).outcome = .ok s →
      ((Program.uploadSlice host).perform v w).state.session.Pins s.allocation := by
    intro host hok
    refine Program.pins_bind hold h hok (Program.pins_allocSlice hold h) fun hlater => ?_
    obtain ⟨_, -, hpure⟩ := Program.bind_eq_ok.1 hlater
    exact Outcome.ok.inj hpure
  cases hp with
  | allocated length => exact Program.pins_allocSlice hold h hok
  | copied host => exact hupload hok
  | single value => exact hupload hok
  | launched u env =>
      unfold KernelUnit.launch at hok ⊢
      split at hok
      · cases hok
      · rename_i hcount
        rw [if_neg hcount]
        obtain ⟨input, hinput, hok⟩ := Program.bind_eq_ok.1 hok
        obtain ⟨_, hagrees⟩ := (Program.upload env).agrees_perform hold v h
        rw [Program.bind_state_of_ok hinput]
        refine Program.pins_bind hold hagrees hok (Program.pins_allocSlice hold hagrees) ?_
        intro s' v w hlater
        obtain ⟨_, -, hlater⟩ := Program.bind_eq_ok.1 hlater
        obtain ⟨_, -, hlater⟩ := Program.bind_eq_ok.1 hlater
        obtain ⟨_, -, hlater⟩ := Program.bind_eq_ok.1 hlater
        obtain ⟨_, -, hpure⟩ := Program.bind_eq_ok.1 hlater
        exact Outcome.ok.inj hpure

end Pinned

/-! ### Using a slice -/

namespace Program

variable {τ α : Type} [Pod α] {w : Workspace Emulated τ} {s : Slice α}

/-- A live array takes as many elements as it has, unless the device is told to refuse that. -/
theorem write_outcome (hready : w.session.device.ready = true)
    (hsize : w.session.device.memory.size? s.address = some (s.length * Pod.width α))
    {host : List α} (hlength : host.length = s.length) (v : Verbosity) :
    ((write s host).perform v w).outcome = Emulated.unlessInjected .copyToDevice
      w.session.device.faults.copyToDevice (.ok ()) := by
  unfold write
  rw [if_pos hlength, store, perform_request]
  refine Emulated.copyToDevice_of_live hready ?_ v
  rw [Pod.length_encodeAll, hlength]
  exact hsize

section Read

variable {buffer : Array UInt8} (hready : w.session.device.ready = true)
  (hbytes : w.session.device.memory.bytes s.address = .ok buffer)
  (hsize : buffer.size = s.length * Pod.width α) (hsmall : buffer.size ≤ Word.largestBlock)

include hready hbytes hsize hsmall

/-- A live array gives back its bytes, unless the device is told to refuse that. -/
theorem fetch_outcome (v : Verbosity) :
    ((fetch s.address (s.length * Pod.width α)).perform v w).outcome =
      Emulated.unlessInjected .copyFromDevice w.session.device.faults.copyFromDevice
        (.ok buffer.toList) := by
  rw [hsize] at hsmall
  rw [fetch, perform_request]
  change (Session.fetch _ _ v w.session).outcome = _
  rw [Session.fetch, if_pos hsmall]
  exact Emulated.read_of_live hready hbytes hsize v

/-- A live array gives back its elements, unless the device is told to refuse that. -/
theorem download_outcome (v : Verbosity) :
    ((download s).perform v w).outcome = Emulated.unlessInjected .copyFromDevice
      w.session.device.faults.copyFromDevice (.ok (Pod.decodeAll s.length buffer.toList)) := by
  have hfetch := fetch_outcome hready hbytes hsize hsmall v
  unfold download
  cases hfault : w.session.device.faults.copyFromDevice with
  | none =>
      rw [hfault] at hfetch
      rw [bind_outcome_of_ok hfetch]
      rfl
  | some status =>
      rw [hfault] at hfetch
      rw [perform_bind, Act.bind_of_error hfetch]
      rfl

end Read

end Program

namespace Session

variable {old : Emulated} {made : List Allocation} {a : Allocation} {s : Session Emulated}

/-- What is pinned and still owned is owned as it is. -/
theorem Pins.mem (h : Pins a s) (howned : a.address ∈ s.tracked.map Allocation.address) :
    a ∈ s.tracked := by
  obtain ⟨b, hb, heq⟩ := List.mem_map.1 howned
  exact h.2 b hb heq ▸ hb

theorem Held.size? (h : s.Held) (ha : a ∈ s.tracked) :
    s.device.memory.size? a.address = some a.size :=
  h.ordered.size? (h.sublist.subset ha)

theorem Held.size_le (h : s.Held) (ha : a ∈ s.tracked) : a.size ≤ Word.largestBlock :=
  h.ordered.small a (h.sublist.subset ha)

/-- **The list of a session agrees with its device.**

Take a session on any device that operations can lead to, and any sequence of requests, whether they
are granted, refused or end in a panic, with any faults and kernels.  The addresses on the list are
distinct and none of them was live before; each stands for a live buffer of exactly the size noted,
which is not zero; the list keeps the order of allocation; and every allocation that succeeded is on
it or was freed early.  An address that is not on the list cannot be freed, and the attempt changes
nothing.  A slice that the session made, and whose address is still on the list, has the size noted
there, without overflow; writing as many elements as it has, and reading it, can fail only if the
device is told to fail the copy. -/
theorem tracker_agrees_with_device {τ : Type} {d : Emulated} (hd : d.Reachable) (config : Config)
    (t : τ) (v : Verbosity) (qs : List (Request τ)) :
    let opened : Workspace Emulated τ := ⟨start d config, t⟩
    let w := Workspace.after v qs opened
    let made := Workspace.grants v qs opened
    (w.session.tracked.map Allocation.address).Nodup ∧
      (∀ a ∈ w.session.tracked, a.address ∉ d.live ∧ 0 < a.size ∧
        w.session.device.memory.size? a.address = some a.size) ∧
      w.session.tracked.Sublist made ∧
      made.length = w.session.tracked.length + w.session.earlyFrees ∧
      (∀ address, address ∉ w.session.tracked.map Allocation.address →
        Workspace.answer (.free address) v w = ⟨.error (.invalidHandle address), w, []⟩) ∧
      ∀ (α : Type) [Pod α] (p : Program τ (Slice α)) (s : Slice α) (later : List (Request τ)),
        let w' := Workspace.after v later (p.perform v w).state
        Slice.Source p → (p.perform v w).outcome = .ok s →
        s.address ∈ w'.session.tracked.map Allocation.address →
          s.allocation ∈ w'.session.tracked ∧ s.sizeBytes = .ok s.allocation.size ∧
          (∀ host, host.length = s.length → ((Program.write s host).perform v w').outcome =
            Emulated.unlessInjected .copyToDevice d.faults.copyToDevice (.ok ())) ∧
          ∃ values, values.length = s.length ∧ ((Program.download s).perform v w').outcome =
            Emulated.unlessInjected .copyFromDevice d.faults.copyFromDevice (.ok values) := by
  intro opened w made
  have hold := hd.ordered
  have hagrees : w.session.Agrees d ([] ++ made) :=
    Workspace.agrees_after hold v qs (agrees_start hold config)
  rw [List.nil_append] at hagrees
  refine ⟨hagrees.held.nodup, fun a ha => ?_, hagrees.sublist, hagrees.count,
    fun address hnot => ?_, ?_⟩
  · exact ⟨hagrees.not_live hold ha, hagrees.positive a (hagrees.sublist.subset ha),
      hagrees.held.size? ha⟩
  · have howns : w.session.owns address = false := by
      rw [Bool.eq_false_iff]
      exact fun howns => hnot ((owns_iff _ _).1 howns)
    change Workspace.onSession (free address) v w = _
    rw [Workspace.onSession, Act.onPart, free_of_unowned howns]
  · intro α _ p s later w' hp hok howned
    obtain ⟨_, hmade⟩ := p.agrees_perform hold v hagrees
    have hlater : w'.session.Agrees d _ := Workspace.agrees_after hold v later hmade
    have hpins : w'.session.Pins s.allocation :=
      Workspace.pins_after hold v later hmade (hp.pins hold hagrees hok)
    have hmem : s.allocation ∈ w'.session.tracked := hpins.mem howned
    have hready := hlater.ready_of_mem hmem
    have hsize := hlater.held.size? hmem
    have hsmall : s.length * Pod.width α ≤ Word.largestBlock := hlater.held.size_le hmem
    obtain ⟨buffer, hbytes, hbuffer⟩ := Memory.bytes_of_size? hsize
    rw [← hlater.faults]
    refine ⟨hmem, ?_, fun host hlength => Program.write_outcome hready hsize hlength v,
      Pod.decodeAll s.length buffer.toList, Pod.length_decodeAll _ _,
      Program.download_outcome hready hbytes hbuffer (hbuffer ▸ hsmall) v⟩
    have hlt : Word.largestBlock < Word.bound := by decide
    exact Word.mul_eq_ok_iff.2 ⟨Nat.lt_of_le_of_lt hsmall hlt, rfl⟩

/-- On a device that refuses every free: the first allocation leaves the list and stays live, and
the slice that is made afterwards can be used. -/
theorem tracker_agrees_after_refused_free :
    let d := Emulated.after .off [.call (.select 0), .call .reset] Emulated.refusing
    let qs : List (Request Unit) := [.allocate 16, .allocate 8, .free ⟨0x7f0000000000⟩]
    let w := Workspace.after .off qs ⟨start d {}, ()⟩
    let p : Program Unit (Slice UInt32) := Program.uploadSlice [1, 2, 3]
    d.Reachable ∧ w.session.tracked = [⟨⟨0x7f0000000100⟩, 8⟩] ∧
      w.session.device.live = [⟨0x7f0000000000⟩, ⟨0x7f0000000100⟩] ∧
      (w.session.tracked.map Allocation.address).Nodup ∧
      (p.perform .off w).outcome = .ok ⟨⟨0x7f0000000200⟩, 3⟩ ∧
      ∃ values, values.length = 3 ∧
        ((Program.download (⟨⟨0x7f0000000200⟩, 3⟩ : Slice UInt32)).perform .off
          (p.perform .off w).state).outcome = .ok values := by
  intro d qs w p
  have hd : d.Reachable :=
    (Emulated.Reachable.fresh 1 none { free := some 700 }).after .off
      [.call (.select 0), .call .reset]
  have hagrees := tracker_agrees_with_device hd {} () .off qs
  have hmade : (p.perform .off w).outcome = .ok ⟨⟨0x7f0000000200⟩, 3⟩ := by decide +kernel
  have hslice := hagrees.2.2.2.2.2 UInt32 p ⟨⟨0x7f0000000200⟩, 3⟩ [] (.copied [1, 2, 3]) hmade
    (by decide +kernel)
  exact ⟨hd, by decide +kernel, by decide +kernel, hagrees.1, hmade, hslice.2.2.2⟩

end Session

end Offload
