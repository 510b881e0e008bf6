/-
**Who holds the memory of a device.**

A watched device keeps a history of the calls that move memory: every allocation with the address
that it returned, and every free.  Watching changes nothing: the device underneath is a view of the
watched one.  From a history one reads which addresses were given out, which were freed, and which
are still held, in the order of their allocation.

A history is *lawful* if only held addresses are freed.  In a lawful history the freed and the held
addresses together are the addresses given out, each as often as it was given out.

Main definitions:

* `Offload.Transfer`, `Offload.History` — a call that moves memory, and a list of them;
* `Offload.History.issued`, `Offload.History.freed`, `Offload.History.held` — the addresses given
  out, freed, and given out but not freed since;
* `Offload.History.Fresh`, `Offload.History.Lawful` — no held address is given out again, and only
  held addresses are freed;
* `Offload.Watched` — a device with its history.

Main results:

* `Offload.Watched.isView` — watching a device changes nothing;
* `Offload.History.Lawful.perm` — **nothing is lost and nothing is freed twice**;
* `Offload.History.IsRelease.settles` — freeing what is held, in order, settles a history.
-/

import Offload.Proofs.View
import Mathlib.Data.List.Induction

set_option autoImplicit false

namespace Offload

/-- A call that moves memory, with the reply of the device. -/
inductive Transfer where
  | allocate (size : Nat) (reply : Outcome Address)
  | free (address : Address) (reply : Outcome Unit)

namespace Transfer

/-- The address that an allocation gave out. -/
def issued? : Transfer → Option Address
  | allocate _ (.ok address) => some address
  | _ => none

/-- The address that was to be freed. -/
def freed? : Transfer → Option Address
  | free address _ => some address
  | _ => none

/-- The failure with which a device refused to free an address. -/
def refusal? : Transfer → Option Failure
  | free _ (.error e) => some e
  | _ => none

/-- What is held after a transfer.  A free counts whether or not the device agreed to it. -/
def settle (held : List Address) : Transfer → List Address
  | allocate _ (.ok address) => held ++ [address]
  | allocate _ _ => held
  | free address _ => held.erase address

end Transfer

/-- The transfers of a device, in order. -/
abbrev History : Type :=
  List Transfer

namespace History

/-- The addresses given out, in order. -/
def issued (h : History) : List Address :=
  h.filterMap Transfer.issued?

/-- The addresses that were to be freed, in order. -/
def freed (h : History) : List Address :=
  h.filterMap Transfer.freed?

/-- The failure of the earliest free that failed. -/
def firstRefusal (h : History) : Option Failure :=
  h.findSome? Transfer.refusal?

/-- The addresses given out and not freed since, in the order of their allocation. -/
def held (h : History) : List Address :=
  h.foldl Transfer.settle []

/-- No address is given out while it is held. -/
def Fresh (h : History) : Prop :=
  ∀ before size address after, h = before ++ .allocate size (.ok address) :: after →
    address ∉ held before

/-- Only held addresses are freed. -/
def Lawful (h : History) : Prop :=
  ∀ before address reply after, h = before ++ .free address reply :: after →
    address ∈ held before

/-- The transfers of a release: these addresses are freed, in this order, and nothing else. -/
def IsRelease (h : History) (l : List Address) : Prop :=
  h.map Transfer.freed? = l.map some

/-! ### One more transfer -/

@[simp] theorem held_concat (h : History) (t : Transfer) :
    held (h ++ [t]) = Transfer.settle (held h) t := by
  simp [held]

@[simp] theorem issued_append (h h' : History) : issued (h ++ h') = issued h ++ issued h' := by
  simp [issued]

@[simp] theorem freed_append (h h' : History) : freed (h ++ h') = freed h ++ freed h' := by
  simp [freed]

@[simp] theorem issued_singleton (t : Transfer) : issued [t] = t.issued?.toList := by
  cases ht : t.issued? <;> simp [issued, ht]

@[simp] theorem freed_singleton (t : Transfer) : freed [t] = t.freed?.toList := by
  cases ht : t.freed? <;> simp [freed, ht]

theorem Fresh.of_append {h h' : History} (hf : Fresh (h ++ h')) : Fresh h := by
  intro before size address after hsplit
  refine hf before size address (after ++ h') ?_
  rw [hsplit]
  simp

theorem Lawful.of_append {h h' : History} (hl : Lawful (h ++ h')) : Lawful h := by
  intro before address reply after hsplit
  refine hl before address reply (after ++ h') ?_
  rw [hsplit]
  simp

theorem lawful_nil : Lawful [] := by
  intro before address reply after hsplit
  simp at hsplit

/-- A lawful history stays lawful if the next transfer frees nothing, or something held. -/
theorem Lawful.concat {h : History} (hl : Lawful h) {t : Transfer}
    (ht : ∀ address reply, t = .free address reply → address ∈ held h) : Lawful (h ++ [t]) := by
  intro before address reply after hsplit
  -- a free in the longer history is its last transfer, or one of the shorter history
  rcases List.eq_nil_or_concat after with rfl | ⟨after, t', rfl⟩
  · obtain ⟨rfl, hlast⟩ := List.append_inj' hsplit rfl
    exact ht address reply (List.singleton_inj.1 hlast)
  · have hsplit : h ++ [t] = (before ++ .free address reply :: after) ++ [t'] := by
      rw [hsplit]
      simp
    obtain ⟨rfl, -⟩ := List.append_inj' hsplit rfl
    exact hl before address reply after rfl

/-- What is held was given out, and keeps the order in which it was given out. -/
theorem held_sublist_issued (h : History) : (held h).Sublist (issued h) := by
  induction h using List.reverseRec with
  | nil => exact List.Sublist.refl _
  | append_singleton h t ih =>
      rw [held_concat, issued_append]
      cases t with
      | free address reply =>
          exact (List.erase_sublist.trans ih).trans (List.sublist_append_left _ _)
      | allocate size reply =>
          cases reply with
          | ok address => exact List.Sublist.append ih (List.Sublist.refl _)
          | error e => exact ih.trans (List.sublist_append_left _ _)
          | panic p => exact ih.trans (List.sublist_append_left _ _)

/-- A device that gives out no address twice gives out no held address. -/
theorem fresh_of_nodup {h : History} (hn : (issued h).Nodup) : Fresh h := by
  intro before size address after hsplit hmem
  rw [hsplit, issued_append, List.nodup_append] at hn
  have hleft : address ∈ issued before := (held_sublist_issued before).subset hmem
  have hright : address ∈ issued (.allocate size (.ok address) :: after) := by
    simp [issued, Transfer.issued?]
  exact hn.2.2 address hleft address hright rfl

/-- **Nothing is lost and nothing is freed twice.**  In a lawful history the freed and the held
addresses together are the addresses given out. -/
theorem Lawful.perm {h : History} (hl : Lawful h) :
    (freed h ++ held h).Perm (issued h) := by
  induction h using List.reverseRec with
  | nil => exact List.Perm.refl _
  | append_singleton h t ih =>
      have ih := ih hl.of_append
      rw [held_concat, issued_append, freed_append]
      cases t with
      | free address reply =>
          have hmem : address ∈ held h := hl h address reply [] rfl
          -- the address moves from the held ones to the freed ones
          have hmove : (address :: (held h).erase address).Perm (held h) :=
            (List.perm_cons_erase hmem).symm
          have := (List.Perm.append_left (freed h) hmove).trans ih
          simpa [Transfer.freed?, Transfer.issued?, Transfer.settle] using this
      | allocate size reply =>
          cases reply with
          | ok address =>
              have := ih.append_right [address]
              simpa [Transfer.freed?, Transfer.issued?, Transfer.settle] using this
          | error e =>
              simpa [Transfer.freed?, Transfer.issued?, Transfer.settle] using ih
          | panic p =>
              simpa [Transfer.freed?, Transfer.issued?, Transfer.settle] using ih

/-! ### Releasing what is held -/

theorem IsRelease.freed {h : History} {l : List Address} (hr : h.IsRelease l) : h.freed = l := by
  have hmap : h.freed = (h.map Transfer.freed?).filterMap id := by
    simp [History.freed, List.filterMap_map]
  rw [hmap, hr]
  simp [List.filterMap_map]

/-- The first transfer of a release frees its first address. -/
theorem IsRelease.cons_inv {h : History} {a : Address} {l : List Address}
    (hr : IsRelease h (a :: l)) :
    ∃ reply rest, h = .free a reply :: rest ∧ IsRelease rest l := by
  cases h with
  | nil => simp [IsRelease] at hr
  | cons t rest =>
      simp only [IsRelease, List.map_cons, List.cons.injEq] at hr
      obtain ⟨ht, hrest⟩ := hr
      cases t with
      | allocate size reply => simp [Transfer.freed?] at ht
      | free address reply =>
          simp only [Transfer.freed?, Option.some.injEq] at ht
          subst ht
          exact ⟨reply, rest, rfl, hrest⟩

/-- **Freeing what is held, in order, settles a history**: it stays lawful and nothing is held. -/
theorem IsRelease.settles {h r : History} {l : List Address} (hr : r.IsRelease l)
    (hl : h.Lawful) (hheld : h.held = l) : (h ++ r).Lawful ∧ (h ++ r).held = [] := by
  induction l generalizing h r with
  | nil =>
      have : r = [] := by simpa [IsRelease] using hr
      subst this
      rw [List.append_nil]
      exact ⟨hl, hheld⟩
  | cons a l ih =>
      obtain ⟨reply, rest, rfl, hrest⟩ := hr.cons_inv
      have hstep : Lawful (h ++ [.free a reply]) := by
        refine hl.concat fun address reply' hfree => ?_
        cases hfree
        rw [hheld]
        exact List.mem_cons_self
      have hnext : held (h ++ [.free a reply]) = l := by
        rw [held_concat, hheld]
        simp [Transfer.settle]
      have := ih hrest hstep hnext
      rwa [List.append_assoc] at this

end History

/-! ### Watched devices -/

/-- A device with the history of its transfers. -/
structure Watched (δ : Type) where
  device : δ
  history : History

namespace Watched

variable {δ α : Type}

/-- A device of which nothing has been seen yet. -/
def start (d : δ) : Watched δ :=
  ⟨d, []⟩

/-- A call that moves no memory. -/
def plain (x : Act δ α) : Act (Watched δ) α :=
  Act.onPart Watched.device (fun d w => { w with device := d }) x

/-- The same for a call that fills a host buffer. -/
def beside {β : Type} (x : Act (δ × β) α) : Act (Watched δ × β) α :=
  Act.onPart (fun s => (s.1.device, s.2)) (fun t s => ({ s.1 with device := t.1 }, t.2)) x

/-- A call that moves memory. -/
def noting (entry : Outcome α → Transfer) (x : Act δ α) : Act (Watched δ) α := fun v w =>
  let r := x v w.device
  ⟨r.outcome, ⟨r.state, w.history ++ [entry r.outcome]⟩, r.log⟩

instance [Device δ] : Device (Watched δ) where
  name w := Device.name w.device
  select ordinal := plain (Device.select ordinal)
  reset := plain Device.reset
  allocate size := noting (.allocate size) (Device.allocate size)
  free address := noting (.free address) (Device.free address)
  copyToDevice address bytes := plain (Device.copyToDevice address bytes)
  copyFromDevice address := beside (Device.copyFromDevice address)
  launch kernel geometry args := plain (Device.launch kernel geometry args)
  synchronize := plain Device.synchronize
  memoryInfo w := Device.memoryInfo w.device

/-- **Watching a device changes nothing.** -/
theorem isView [Device δ] : Device.View (Watched.device : Watched δ → δ) where
  name _ := rfl
  select _ _ _ := rfl
  reset _ _ := rfl
  allocate _ _ _ := rfl
  free _ _ _ := rfl
  copyToDevice _ _ _ _ := rfl
  copyFromDevice _ _ _ := rfl
  launch _ _ _ _ _ := rfl
  synchronize _ _ := rfl
  memoryInfo _ := rfl

end Watched

end Offload
