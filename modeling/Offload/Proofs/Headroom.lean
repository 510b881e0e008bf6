/-
**Headroom.**

A session that checks memory asks its device how much is free before it asks for more.  An
allocation that would leave less than the configured headroom is refused, so whatever was granted,
the live buffers and the headroom fit together into the capacity of the device.

The check adds in a machine word, and the sum stops at the largest word.  There is one state in
which that is not seen: a device whose free memory is the largest word itself refuses nothing,
however much is asked for.

Main definitions:

* `Offload.Session.Overlooks` — the one state in which the check sees no shortage.

Main results:

* `Offload.Emulated.memoryInfo_of_ordered` — what a device reports is what its buffers leave;
* `Offload.Session.ensureFits_of_info` — the check, in exact numbers;
* `Offload.Session.headroom_is_kept` — **what is granted leaves the headroom free**, and what would
  not is refused.
-/

import Offload.Proofs.Refusals

set_option autoImplicit false

namespace Offload

/-! ### The memory that a device reports -/

namespace Memory

/-- The bytes in use are those of the layout. -/
theorem used_eq (m : Memory) : m.used = Word.sum (m.layout.map Allocation.size) := by
  unfold used layout
  rw [List.map_map]
  rfl

end Memory

namespace Emulated

/-- The bytes of all live buffers together. -/
def liveBytes (d : Emulated) : Nat :=
  Word.total (d.layout.map Allocation.size)

/-- What a device reports is what its buffers leave of its capacity. -/
theorem memoryInfo_of_ordered {d : Emulated} (h : d.Ordered) {capacity : UInt64}
    (hcapacity : d.capacity = some capacity) :
    memoryInfo d = .ok (some ⟨capacity.toNat - d.liveBytes, capacity.toNat⟩) := by
  have hused : d.memory.used = .ok d.liveBytes := by
    rw [Memory.used_eq]
    exact Word.sum_eq_ok_iff.2 ⟨h.total_lt, rfl⟩
  unfold memoryInfo
  rw [hcapacity]
  simp only [hused, Outcome.ok_bind, Outcome.pure_eq]

end Emulated

namespace Session

/-! ### The check -/

/-- All memory that a word can count is free, and more than that is needed: a sum that stops at the
largest word does not show the shortage. -/
def Overlooks (free needed : Nat) : Prop :=
  free = Word.max ∧ Word.max < needed

instance (free needed : Nat) : Decidable (Overlooks free needed) :=
  inferInstanceAs (Decidable (_ ∧ _))

theorem lt_saturate_iff {free needed : Nat} (h : free ≤ Word.max) :
    free < Word.saturate needed ↔ free < needed ∧ ¬ Overlooks free needed := by
  unfold Word.saturate Overlooks
  omega

/-- **The check, in exact numbers**: it refuses what would not leave the headroom, unless it
overlooks that. -/
theorem ensureFits_of_info {δ : Type} [Device δ] {s : Session δ} {info : MemoryInfo}
    (hcheck : s.config.memCheck = true) (hinfo : Device.memoryInfo s.device = .ok (some info))
    (hfree : info.free ≤ Word.max) (size : Nat) (v : Verbosity) :
    let needed := size + s.config.headroomBytes.toNat
    ((ensureFits size v s).outcome = .ok () ∧
        ¬ (info.free < needed ∧ ¬ Overlooks info.free needed)) ∨
      ((ensureFits size v s).outcome =
          .error (.outOfMemory size info.free s.config.headroomBytes.toNat) ∧
        info.free < needed ∧ ¬ Overlooks info.free needed) := by
  intro needed
  have houtcome : (ensureFits size v s).outcome = if info.free < Word.saturate needed then
      .error (.outOfMemory size info.free s.config.headroomBytes.toNat) else .ok () := by
    unfold ensureFits
    rw [Act.bind_of_ok rfl, Step.after_outcome]
    simp only [Act.get_apply, if_pos hcheck, hinfo]
    rw [Act.bind_of_ok rfl, Step.after_outcome]
    dsimp only
    split <;> rfl
  rw [houtcome, ← lt_saturate_iff hfree]
  by_cases hshort : info.free < Word.saturate needed
  · rw [if_pos hshort]
    exact Or.inr ⟨rfl, hshort⟩
  · rw [if_neg hshort]
    exact Or.inl ⟨rfl, hshort⟩

/-- Only the check refuses a request for want of memory. -/
theorem allocate_eq_outOfMemory_iff {size required found kept : Nat} {v : Verbosity}
    {s : Session Emulated} :
    (allocate size v s).outcome = .error (.outOfMemory required found kept) ↔
      size ≠ 0 ∧ (ensureFits size v s).outcome = .error (.outOfMemory required found kept) := by
  constructor
  · intro h
    rcases allocate_eq_error h with ⟨-, hzero, -⟩ | ⟨hsize, hcheck, -⟩ | ⟨-, -, hreply, -⟩
    · cases hzero
    · exact ⟨hsize, hcheck⟩
    · obtain ⟨⟨status, hstatus⟩, -⟩ := Emulated.allocate_eq_error hreply
      cases hstatus
  · rintro ⟨hsize, hcheck⟩
    unfold allocate
    rw [if_neg hsize, Act.bind_of_error hcheck]

/-- A session keeps its settings. -/
theorem config_after {τ : Type} {d : Emulated} (hd : d.Ordered) (config : Config) (t : τ)
    (v : Verbosity) (qs : List (Request τ)) :
    (Workspace.after v qs ⟨start d config, t⟩).session.config = config := by
  have hkept := Workspace.after_invariant
    (I := fun made s => Agrees d made s ∧ s.config = config) (fun h => h.1.held)
    (fun h hturn => ⟨h.1.turn hd hturn, by cases hturn <;> exact h.2⟩) v qs []
    (w := ⟨start d config, t⟩) ⟨agrees_start hd config, rfl⟩
  exact hkept.2

/-- What a session reaches reports its memory exactly. -/
theorem memoryInfo_after {τ : Type} {d : Emulated} (hd : d.Reachable) {capacity : UInt64}
    (hcapacity : d.capacity = some capacity) (config : Config) (t : τ) (v : Verbosity)
    (qs : List (Request τ)) :
    let s := (Workspace.after v qs ⟨start d config, t⟩).session
    Device.memoryInfo s.device =
      .ok (some ⟨capacity.toNat - s.device.liveBytes, capacity.toNat⟩) := by
  have hleads := Workspace.leads_after v qs ⟨start d config, t⟩
  exact Emulated.memoryInfo_of_ordered (hleads.ordered hd.ordered)
    ((congrArg Emulated.Equipment.capacity hleads.equipment).trans hcapacity)

/-- A granted allocation adds its bytes to those of the live buffers. -/
theorem liveBytes_allocate {size : Nat} {v : Verbosity} {s : Session Emulated} {a : Address}
    (h : (allocate size v s).outcome = .ok a) :
    (allocate size v s).state.device.liveBytes = s.device.liveBytes + size := by
  rw [allocate_extends h]
  simp [extended, Emulated.extended, Memory.grown, Emulated.liveBytes, Emulated.layout,
    Memory.layout]

/-! ### Headroom is kept -/

/-- **What is granted leaves the headroom free, and what would not is refused.**  In every state of
a session that checks the memory of a device with a capacity, the device reports what its live
buffers leave of it.  A request is refused for want of memory iff it asks for something and the
headroom would not stay free, and then nothing has changed.  After a request that is granted the
live buffers and the headroom fit into the capacity.  The exception is a device on which the largest
word is free: there the check sees no shortage, and the device alone decides. -/
theorem headroom_is_kept {τ : Type} {d : Emulated} (hd : d.Reachable) {capacity : UInt64}
    (hcapacity : d.capacity = some capacity) {config : Config} (hcheck : config.memCheck = true)
    (t : τ) (v : Verbosity) (qs : List (Request τ)) (size : Nat) :
    let s := (Workspace.after v qs ⟨start d config, t⟩).session
    let headroom := config.headroomBytes.toNat
    let free := capacity.toNat - s.device.liveBytes
    Device.memoryInfo s.device = .ok (some ⟨free, capacity.toNat⟩) ∧
      ((allocate size v s).outcome = .error (.outOfMemory size free headroom) ↔
        size ≠ 0 ∧ free < size + headroom ∧ ¬ Overlooks free (size + headroom)) ∧
      (∀ required found kept,
        (allocate size v s).outcome = .error (.outOfMemory required found kept) →
          required = size ∧ found = free ∧ kept = headroom ∧ (allocate size v s).state = s) ∧
      (∀ address, (allocate size v s).outcome = .ok address →
        ¬ Overlooks free (size + headroom) →
          size + headroom ≤ free ∧
            (allocate size v s).state.device.liveBytes + headroom ≤ capacity.toNat) ∧
      (size ≠ 0 → Overlooks free (size + headroom) →
        (allocate size v s).outcome = (Emulated.allocate size v s.device).outcome) := by
  intro s headroom free
  have hinfo : Device.memoryInfo s.device = .ok (some ⟨free, capacity.toNat⟩) :=
    memoryInfo_after hd hcapacity config t v qs
  have hheld : s.Held :=
    (Workspace.agrees_after hd.ordered v qs (w := ⟨start d config, t⟩)
      (agrees_start hd.ordered config)).held
  have hconfig : s.config = config := config_after hd.ordered config t v qs
  have hfree : free ≤ Word.max := by
    have hlt : capacity.toNat < Word.bound := capacity.toNat_lt
    unfold Word.max
    omega
  have hfits := ensureFits_of_info (by rw [hconfig]; exact hcheck) hinfo hfree size v
  rw [hconfig] at hfits
  -- each part follows from which way the check went
  refine ⟨hinfo, ?_, ?_, ?_, ?_⟩
  · rw [allocate_eq_outOfMemory_iff]
    refine and_congr_right fun _ => ?_
    rcases hfits with ⟨hok, henough⟩ | ⟨herror, hshort⟩
    · rw [hok]
      exact ⟨nofun, fun h => absurd h henough⟩
    · exact ⟨fun _ => hshort, fun _ => herror⟩
  · intro required found kept h
    have hstate := traceless_allocate size v s _ h
    obtain ⟨-, hcheck⟩ := allocate_eq_outOfMemory_iff.1 h
    rcases hfits with ⟨hok, -⟩ | ⟨herror, -⟩
    · rw [hok] at hcheck
      cases hcheck
    · rw [herror] at hcheck
      cases hcheck
      exact ⟨rfl, rfl, rfl, hstate⟩
  · intro address h hseen
    obtain ⟨hsize, hcheck, -⟩ := allocate_eq_ok h
    rcases hfits with ⟨-, henough⟩ | ⟨herror, -⟩
    · have hle : size + headroom ≤ free := by
        by_contra hlt
        exact henough ⟨Nat.lt_of_not_le hlt, hseen⟩
      refine ⟨hle, ?_⟩
      rw [liveBytes_allocate h]
      omega
    · rw [herror] at hcheck
      cases hcheck
  · intro hsize hoverlooks
    rcases hfits with ⟨hok, -⟩ | ⟨-, -, hseen⟩
    · exact hheld.allocate_outcome hsize hok
    · exact absurd hoverlooks hseen

/-- A device with four kilobytes, ready for a session. -/
def fourKilobytes : Emulated :=
  Emulated.after .off [.call (.select 0), .call .reset] (Emulated.fresh 1 (some 4096) {})

/-- With a quarter of four kilobytes kept free and half of them in use, a request for a quarter is
granted, and one byte more is refused. -/
theorem headroom_is_kept_in_four_kilobytes :
    let config : Config := { headroomBytes := 1024 }
    let s := (Workspace.after .off [.allocate 2048] ⟨start fourKilobytes config, ()⟩).session
    s.device.liveBytes = 2048 ∧
      (allocate 1024 .off s).outcome = .ok ⟨0x7f0000000800⟩ ∧
      (allocate 1024 .off s).state.device.liveBytes + config.headroomBytes.toNat ≤
        (4096 : UInt64).toNat ∧
      (allocate 1025 .off s).outcome = .error (.outOfMemory 1025
        ((4096 : UInt64).toNat - s.device.liveBytes) config.headroomBytes.toNat) := by
  have hd : fourKilobytes.Reachable :=
    (Emulated.Reachable.fresh 1 (some 4096) {}).after .off _
  have hcapacity : fourKilobytes.capacity = some 4096 := rfl
  have hcheck : ({ headroomBytes := 1024 } : Config).memCheck = true := rfl
  obtain ⟨-, -, -, hkept, -⟩ := headroom_is_kept hd hcapacity hcheck () .off [.allocate 2048] 1024
  obtain ⟨-, hrefused, -⟩ := headroom_is_kept hd hcapacity hcheck () .off [.allocate 2048] 1025
  exact ⟨by decide +kernel, by decide +kernel,
    (hkept ⟨0x7f0000000800⟩ (by decide +kernel) (by decide +kernel)).2,
    hrefused.2 (by decide +kernel)⟩

/-- On a device with the largest capacity and nothing in use, no request is refused to keep the
largest headroom free: one byte is granted, although nothing may be. -/
theorem largest_headroom_is_not_kept :
    let d := Emulated.after .off [.call (.select 0), .call .reset]
      (Emulated.fresh 1 (some 0xffffffffffffffff) {})
    let s := start d { headroomBytes := 0xffffffffffffffff }
    Device.memoryInfo s.device = .ok (some ⟨Word.max, Word.max⟩) ∧
      Word.max < 1 + s.config.headroomBytes.toNat ∧
      (allocate 1 .off s).outcome = .ok ⟨0x7f0000000000⟩ := by
  decide +kernel

end Session

end Offload
