/-
**What a buffer keeps.**

A buffer on the device has the contents that were copied to it until something overwrites it: a copy
to its address, or a kernel that writes there.  All other requests leave it alone — allocations,
which put their buffers behind it, frees of other addresses, copies to other buffers, launches, and
synchronizations whose kernels write elsewhere — and so does a request that fails or panics half
way.

What kernels write is read off their runs: the addresses of the accesses that succeed, thread by
thread and launch by launch, up to the first one that does not end well.  A write that fails changes
nothing, so it does not count.

Main definitions:

* `Offload.Kernel.written`, `Offload.Emulated.written` — the addresses that a kernel writes, and
  those that a synchronization writes;
* `Offload.Workspace.Spares` — requests do not overwrite or free an address.

Main results:

* `Offload.Kernel.find?_run` — a kernel leaves alone what it does not write;
* `Offload.Workspace.find?_answer`, `Offload.Workspace.find?_after` — one request, and every
  sequence of requests, leaves alone what it spares;
* `Offload.Program.download_after_upload` — **what was uploaded comes back bit for bit**.
-/

import Offload.Proofs.Tracking
import Offload.Reference

set_option autoImplicit false

namespace Offload

/-! ### One buffer of a memory -/

namespace Memory

variable {m m' : Memory} {address other : Address} {b : Buffer}

/-- A buffer is found where it was before its contents were changed. -/
theorem find?_update (m : Memory) (address other : Address) (f : Array UInt8 → Array UInt8) :
    (m.update other f).find? address = (m.find? address).map fun b =>
      if b.address = other then { b with bytes := f b.bytes } else b := by
  unfold find? update
  rw [List.find?_map]
  congr 2
  funext b
  simp only [Function.comp_apply]
  split <;> rfl

theorem find?_update_of_ne (h : other ≠ address) (f : Array UInt8 → Array UInt8) :
    (m.update other f).find? address = m.find? address := by
  rw [find?_update]
  cases hfind : m.find? address with
  | none => rfl
  | some b =>
      have hb : b.address = address := (mem_of_find?_eq_some hfind).2
      have hne : b.address ≠ other := by
        rw [hb]
        exact h.symm
      rw [Option.map_some, if_neg hne]

theorem find?_update_self (h : m.find? address = some b) (f : Array UInt8 → Array UInt8) :
    (m.update address f).find? address = some { b with bytes := f b.bytes } := by
  rw [find?_update, h, Option.map_some, if_pos (mem_of_find?_eq_some h).2]

/-- New buffers lie behind the old ones. -/
theorem find?_append {more : List Buffer} (hbuffers : m'.buffers = m.buffers ++ more)
    (h : m.find? address = some b) : m'.find? address = some b := by
  unfold find? at h ⊢
  rw [hbuffers, List.find?_append, h]
  rfl

theorem find?_release (hrelease : m.release other = some m') (h : other ≠ address) :
    m'.find? address = m.find? address := by
  unfold release at hrelease
  split at hrelease
  · cases hrelease
    unfold find?
    rw [List.find?_filter]
    congr 1
    funext b
    by_cases hb : b.address = address
    · simp [hb, h.symm]
    · simp [hb]
  · cases hrelease

/-! ### What kernels write -/

/-- The address that an access writes, if it is a write that succeeds. -/
def written (m : Memory) : Access → List Address
  | .write address index bytes =>
      match (m.write address index bytes).1 with
      | .ok () => [address]
      | _ => []
  | _ => []

/-- A write changes the buffer at its address, or it fails and changes nothing. -/
theorem write_cases (m : Memory) (address : Address) (index : Nat) (bytes : List UInt8) :
    (∃ start, m.write address index bytes =
        (.ok (), m.update address fun buffer => splice buffer start bytes)) ∨
      (m.write address index bytes).2 = m := by
  unfold write
  split
  · rename_i start _
    exact Or.inl ⟨start, rfl⟩
  · exact Or.inr rfl
  · exact Or.inr rfl

/-- An access leaves alone what it does not write. -/
theorem find?_answer {q : Access} (h : address ∉ m.written q) :
    (m.answer q).2.find? address = m.find? address := by
  cases q with
  | size other => rfl
  | read other width index => rfl
  | write other index bytes =>
      change (m.write other index bytes).2.find? address = _
      rcases m.write_cases other index bytes with ⟨start, hwrite⟩ | hwrite
      · have hne : other ≠ address := by
          rintro rfl
          simp [written, hwrite] at h
        rw [hwrite]
        exact find?_update_of_ne hne _
      · rw [hwrite]

end Memory

/-- The addresses that a kernel writes, in order. -/
def Kernel.written {α : Type} : Kernel α → Memory → List Address
  | .done _, _ => []
  | .fail _, _ => []
  | .panic _, _ => []
  | .ask q next, m => m.written q ++ match m.answer q with
      | (.ok a, m) => written (next (.ok a)) m
      | (.error e, m) => written (next (.error e)) m
      | (.panic _, _) => []

/-- **A kernel leaves alone what it does not write**, however it ends. -/
theorem Kernel.find?_run {α : Type} {address : Address} (k : Kernel α) {m : Memory}
    (h : address ∉ k.written m) : (k.run m).2.find? address = m.find? address := by
  induction k generalizing m with
  | done a => rfl
  | fail e => rfl
  | panic p => rfl
  | ask q next ih =>
      rw [written, List.mem_append, not_or] at h
      obtain ⟨hfirst, hrest⟩ := h
      have hanswer := Memory.find?_answer hfirst
      rw [run]
      split
      all_goals
        rename_i hsplit
        rw [hsplit] at hanswer hrest
      · exact (ih _ hrest).trans hanswer
      · exact (ih _ hrest).trans hanswer
      · exact hanswer

namespace Emulated

/-- The addresses that some threads of a launch write. -/
def writtenByThreads (body : Thread → Kernel Unit) (geometry : Geometry) :
    (count first : Nat) → Memory → List Address
  | 0, _, _ => []
  | count + 1, first, m =>
      (body (geometry.thread first)).written m ++ match (body (geometry.thread first)).run m with
        | (.ok (), m) => writtenByThreads body geometry count (first + 1) m
        | _ => []

theorem find?_runThreads {address : Address} (body : Thread → Kernel Unit) (geometry : Geometry)
    (count first : Nat) {m : Memory} (h : address ∉ writtenByThreads body geometry count first m) :
    (runThreads body geometry count first m).2.find? address = m.find? address := by
  induction count generalizing first m with
  | zero => rfl
  | succ count ih =>
      rw [writtenByThreads, List.mem_append, not_or] at h
      obtain ⟨hfirst, hrest⟩ := h
      have hthread := (body (geometry.thread first)).find?_run hfirst
      rw [runThreads]
      split
      all_goals
        rename_i hsplit
        rw [hsplit] at hthread hrest
      · exact (ih _ hrest).trans hthread
      · exact hthread
      · exact hthread

/-- The addresses that a launch writes. -/
def writtenByLaunch (d : Emulated) (l : Launch) : List Address :=
  match d.body? l.kernel with
  | none => []
  | some body => writtenByThreads (fun t => body t l.args) l.geometry l.geometry.count 0 d.memory

theorem find?_runLaunch {address : Address} {d : Emulated} {l : Launch} (v : Verbosity)
    (h : address ∉ d.writtenByLaunch l) :
    (runLaunch l v d).state.memory.find? address = d.memory.find? address := by
  unfold runLaunch
  rw [Act.bind_of_ok (rfl : (Act.get v d).outcome = .ok d), Step.after_state]
  unfold writtenByLaunch at h
  cases hbody : d.body? l.kernel with
  | none => rfl
  | some body =>
      rw [hbody] at h
      exact find?_runThreads (fun t => body t l.args) l.geometry l.geometry.count 0 h

/-- The addresses that launches write, up to the first one that does not succeed. -/
def writtenBy (v : Verbosity) : List Launch → Emulated → List Address
  | [], _ => []
  | l :: rest, d => d.writtenByLaunch l ++ match (runLaunch l v d).outcome with
      | .ok () => writtenBy v rest (runLaunch l v d).state
      | _ => []

theorem find?_runLaunches {address : Address} (v : Verbosity) (ls : List Launch) {d : Emulated}
    (h : address ∉ writtenBy v ls d) :
    (runLaunches ls v d).state.memory.find? address = d.memory.find? address := by
  induction ls generalizing d with
  | nil => rfl
  | cons l rest ih =>
      rw [writtenBy, List.mem_append, not_or] at h
      obtain ⟨hfirst, hrest⟩ := h
      have hlaunch := find?_runLaunch v hfirst
      unfold runLaunches
      cases hrun : (runLaunch l v d).outcome with
      | ok u =>
          rw [hrun] at hrest
          rw [Act.bind_of_ok hrun, Step.after_state]
          exact (ih hrest).trans hlaunch
      | error e =>
          rw [Act.bind_of_error hrun]
          exact hlaunch
      | panic p =>
          rw [Act.bind_of_panic hrun]
          exact hlaunch

/-- The addresses that a synchronization writes: those of the launches that it runs. -/
def written (v : Verbosity) (d : Emulated) : List Address :=
  if d.ready = true ∧ d.faults.synchronize = none then writtenBy v d.pending d.drained else []

theorem find?_synchronize {address : Address} {v : Verbosity} {d : Emulated}
    (h : address ∉ d.written v) :
    (synchronize v d).state.memory.find? address = d.memory.find? address := by
  by_cases hruns : d.ready = true ∧ d.faults.synchronize = none
  · rw [written, if_pos hruns] at h
    rw [synchronize_of_ready hruns.1 hruns.2]
    exact find?_runLaunches v d.pending h
  · -- no launch is run
    have hcontext := requireContext_apply .synchronize v d
    unfold synchronize
    cases hready : d.ready with
    | false =>
        rw [hready] at hcontext
        rw [Act.bind_of_error (by rw [hcontext]; rfl), hcontext]
    | true =>
        cases hfault : d.faults.synchronize with
        | none => exact absurd ⟨hready, hfault⟩ hruns
        | some status =>
            rw [hready] at hcontext
            rw [Act.bind_of_ok (by rw [hcontext]; rfl), hcontext,
              Act.bind_of_ok (rfl : (Act.get v d).outcome = .ok d), hfault]
            rfl

/-! ### What calls leave alone -/

variable {d : Emulated} {address other : Address} {b : Buffer}

theorem find?_allocate (h : d.memory.find? address = some b) (size : Nat) (v : Verbosity) :
    (allocate size v d).state.memory.find? address = some b := by
  rcases allocate_buffers size v d with ⟨-, hbuffers⟩ | ⟨-, -, hbuffers⟩
  · exact Memory.find?_append (hbuffers.trans (List.append_nil _).symm) h
  · exact Memory.find?_append hbuffers h

theorem find?_free {v : Verbosity} (h : other = address → (free other v d).outcome ≠ .ok ()) :
    (free other v d).state.memory.find? address = d.memory.find? address := by
  rcases free_cases other v d with ⟨e, -, hstate⟩ | ⟨memory, -, hrelease, hok, hstate⟩
  · rw [hstate]
  · rw [hstate]
    exact Memory.find?_release hrelease fun heq => h heq hok

theorem find?_copyToDevice {bytes : List UInt8} {v : Verbosity}
    (h : other = address → (copyToDevice other bytes v d).outcome ≠ .ok ()) :
    (copyToDevice other bytes v d).state.memory.find? address = d.memory.find? address := by
  rcases copyToDevice_cases other bytes v d with ⟨e, -, hstate⟩ | ⟨-, -, hok, hstate⟩
  · rw [hstate]
  · rw [hstate]
    exact Memory.find?_update_of_ne (fun heq => h heq hok) _

theorem memory_launch (kernel : String) (geometry : Geometry) (args : List Arg) :
    Act.Keeps memory (launch kernel geometry args) :=
  keeps_launch (fun _ _ _ => rfl) kernel geometry args

end Emulated

/-! ### What requests leave alone -/

/-- A request does not overwrite or free an address.  One that fails may ask for it. -/
def Request.Spares {τ : Type} (address : Address) (v : Verbosity) (w : Workspace Emulated τ) :
    Request τ → Prop
  | .store other bytes =>
      other = address → (Session.store other bytes v w.session).outcome ≠ .ok ()
  | .free other => other = address → (Session.free other v w.session).outcome ≠ .ok ()
  | .synchronize => address ∉ w.session.device.written v
  | _ => True

instance Request.decidableSpares {τ : Type} (address : Address) (v : Verbosity)
    (w : Workspace Emulated τ) : (q : Request τ) → Decidable (q.Spares address v w)
  | .store _ _ => inferInstanceAs (Decidable (_ → _ ≠ _))
  | .free _ => inferInstanceAs (Decidable (_ → _ ≠ _))
  | .synchronize => inferInstanceAs (Decidable (_ ∉ _))
  | .allocate _ | .fetch _ _ | .launch _ _ _ | .inspect | .note _ _ _ | .load | .save _ =>
      .isTrue trivial

namespace Workspace

variable {τ : Type} {address : Address} {b : Buffer}

/-- Requests do not overwrite or free an address, each at the time when it is made. -/
def Spares (address : Address) (v : Verbosity) : List (Request τ) → Workspace Emulated τ → Prop
  | [], _ => True
  | q :: qs, w => q.Spares address v w ∧ Spares address v qs (answer q v w).state

instance decidableSpares (address : Address) (v : Verbosity) (qs : List (Request τ))
    (w : Workspace Emulated τ) : Decidable (Spares address v qs w) :=
  match qs with
  | [] => .isTrue trivial
  | _ :: qs => @instDecidableAnd _ _ _ (decidableSpares address v qs _)

/-- **A request leaves alone the buffer that it spares**, however it ends. -/
theorem find?_answer {q : Request τ} {v : Verbosity} {w : Workspace Emulated τ}
    (hspares : q.Spares address v w) (h : w.session.device.memory.find? address = some b) :
    (answer q v w).state.session.device.memory.find? address = some b := by
  cases q with
  | allocate size =>
      rcases Session.allocate_device size v w.session with hdevice | hdevice
      · exact (congrArg (fun d => d.memory.find? address) hdevice).trans h
      · exact (congrArg (fun d => d.memory.find? address) hdevice).trans
          (Emulated.find?_allocate h size v)
  | store other bytes => exact (Emulated.find?_copyToDevice hspares).trans h
  | fetch other size =>
      have hstate := Session.fetch_state other size v w.session
      exact (congrArg (fun s => s.device.memory.find? address) hstate).trans h
  | free other =>
      cases howns : w.session.owns other with
      | true =>
          obtain ⟨houtcome, hstate⟩ := Session.free_of_owned howns v
          have hcall : other = address →
              (Emulated.free other v w.session.device).outcome ≠ .ok () :=
            fun heq hok => hspares heq (houtcome.trans hok)
          exact ((congrArg (fun s => s.device.memory.find? address) hstate).trans
            (Emulated.find?_free hcall)).trans h
      | false =>
          have hstate := congrArg Step.state (Session.free_of_unowned howns v)
          exact (congrArg (fun s => s.device.memory.find? address) hstate).trans h
  | launch kernel geometry args =>
      rcases Session.launch_state kernel geometry args v w.session with hstate | hstate
      · exact (congrArg (fun s => s.device.memory.find? address) hstate).trans h
      · have hcall := Emulated.memory_launch kernel geometry args v w.session.device
        exact ((congrArg (fun s => s.device.memory.find? address) hstate).trans
          (congrArg (fun m => m.find? address) hcall)).trans h
  | synchronize => exact (Emulated.find?_synchronize hspares).trans h
  | inspect => exact h
  | note level message fields =>
      have hstate : (answer (.note level message fields) v w).state = w := Act.note_state ..
      rw [hstate]
      exact h
  | load => exact h
  | save data => exact h

/-- **So does every sequence of requests.** -/
theorem find?_after (v : Verbosity) (qs : List (Request τ)) {w : Workspace Emulated τ}
    (hspares : Spares address v qs w) (h : w.session.device.memory.find? address = some b) :
    (after v qs w).session.device.memory.find? address = some b := by
  induction qs generalizing w with
  | nil => exact h
  | cons q qs ih => exact ih hspares.2 (find?_answer hspares.1 h)

end Workspace

/-! ### Upload and download -/

namespace Program

variable {τ α : Type} [Pod α]

/-- An upload that succeeds leaves its array on a device that is ready. -/
theorem uploadSlice_eq_ok {values : List α} {v : Verbosity} {w : Workspace Emulated τ}
    {s : Slice α} (h : ((uploadSlice values).perform v w).outcome = .ok s) :
    s.length = values.length ∧ values.length * Pod.width α ≤ Word.largestBlock ∧
      ((uploadSlice values).perform v w).state.session.device.ready = true ∧
      ∃ b, ((uploadSlice values).perform v w).state.session.device.memory.find? s.address =
        some b ∧ b.bytes = (Pod.encodeAll values).toArray := by
  obtain ⟨s', hs', hlater⟩ := bind_eq_ok.1 h
  obtain ⟨u, hwrite, hpure⟩ := bind_eq_ok.1 hlater
  obtain rfl : s' = s := Outcome.ok.inj hpure
  obtain ⟨hlength, hallocated, hstate⟩ := allocSlice_eq_ok hs'
  unfold uploadSlice
  rw [bind_state_of_ok hs', bind_state_of_ok hwrite]
  unfold write at hwrite ⊢
  rw [if_pos hlength.symm, store, perform_request] at hwrite ⊢
  refine ⟨hlength, ?_, ?_⟩
  · -- the device makes no buffer that is larger than the largest block
    have hallocate : (Session.allocate (values.length * Pod.width α) v w.session).outcome =
        .ok s'.address := hallocated
    rcases Session.allocate_cases (values.length * Pod.width α) v w.session with
      ⟨hrefused, -⟩ | ⟨-, hrefused, -⟩ | ⟨-, -, address, hreply⟩
    · exact absurd hallocate (hrefused _)
    · exact absurd hallocate (hrefused _)
    · rcases Emulated.allocate_buffers (values.length * Pod.width α) v w.session.device with
        ⟨hrefused, -⟩ | ⟨hsize, -⟩
      · exact absurd hreply (hrefused _)
      · exact hsize
  · generalize ((allocSlice α values.length).perform v w).state = w at hwrite
    have hcall : (Emulated.copyToDevice s'.address (Pod.encodeAll values) v
        w.session.device).outcome = .ok u := hwrite
    change (Emulated.copyToDevice s'.address (Pod.encodeAll values) v
        w.session.device).state.ready = true ∧
      ∃ b, (Emulated.copyToDevice s'.address (Pod.encodeAll values) v
        w.session.device).state.memory.find? s'.address = some b ∧ _
    rcases Emulated.copyToDevice_cases s'.address (Pod.encodeAll values) v w.session.device with
      ⟨e, herror, -⟩ | ⟨hready, hsize, -, hcopied⟩
    · rw [herror] at hcall
      cases hcall
    · rw [hcopied]
      obtain ⟨b, hfind, -⟩ := Option.map_eq_some_iff.1 hsize
      exact ⟨hready, _, Memory.find?_update_self hfind _, rfl⟩

/-- **What was uploaded comes back bit for bit.**

Take any session on an emulated device and an upload that succeeds.  Whatever is requested
afterwards, and however it ends, as long as no copy to the address of the array succeeds, the
address is not freed and no kernel that is run writes to it, a download gives back exactly the
values, and a fetch exactly their bytes, unless the device is told to fail the copy. -/
theorem download_after_upload (w : Workspace Emulated τ) (v : Verbosity) (values : List α)
    {s : Slice α} (later : List (Request τ))
    (hupload : ((uploadSlice values).perform v w).outcome = .ok s)
    (hspares : Workspace.Spares s.address v later ((uploadSlice values).perform v w).state) :
    let w' := Workspace.after v later ((uploadSlice values).perform v w).state
    let fault := w.session.device.faults.copyFromDevice
    ((download s).perform v w').outcome =
        Emulated.unlessInjected .copyFromDevice fault (.ok values) ∧
      ((fetch s.address (s.length * Pod.width α)).perform v w').outcome =
        Emulated.unlessInjected .copyFromDevice fault (.ok (Pod.encodeAll values)) := by
  intro w' fault
  obtain ⟨hlength, hsmall, hready, b, hfind, hcontents⟩ := uploadSlice_eq_ok hupload
  have hleads : w.session.device.Leads w'.session.device :=
    ((uploadSlice values).leads_perform v w).trans (Workspace.leads_after v later _)
  have hready' : w'.session.device.ready = true :=
    (Workspace.leads_after v later _).ready hready
  have hbytes : w'.session.device.memory.bytes s.address = .ok (Pod.encodeAll values).toArray := by
    unfold Memory.bytes
    rw [Workspace.find?_after v later hspares hfind]
    exact congrArg Outcome.ok hcontents
  have hsize : (Pod.encodeAll values).toArray.size = s.length * Pod.width α := by
    rw [List.size_toArray, Pod.length_encodeAll, hlength]
  have hroom : (Pod.encodeAll values).toArray.size ≤ Word.largestBlock := by
    rw [hsize, hlength]
    exact hsmall
  have hdownload := download_outcome hready' hbytes hsize hroom v
  have hfetch := fetch_outcome hready' hbytes hsize hroom v
  rw [hleads.faults] at hdownload hfetch
  rw [hlength, Pod.decodeAll_encodeAll] at hdownload
  exact ⟨hdownload, hfetch⟩

/-- After an upload of two numbers another array is made, doubled by a kernel and freed, and a copy
of the wrong size to the first array fails. -/
theorem download_after_kernel_elsewhere :
    let d := Emulated.after .off [.call (.select 0), .call .reset] Reference.device
    let opened : Workspace Emulated Unit := ⟨Session.start d {}, ()⟩
    let w := ((uploadSlice [(7 : Int32), -1]).perform .off opened).state
    let input : Address := ⟨0x7f0000000100⟩
    let output : Address := ⟨0x7f0000000200⟩
    let later : List (Request Unit) := [.allocate 4, .allocate 4, .store input [21, 0, 0, 0],
      .launch "double_value" ⟨.line 1, .line 1⟩ [.pointer input, .pointer output], .synchronize,
      .free input, .store ⟨0x7f0000000000⟩ [1]]
    let w' := Workspace.after .off later w
    ((uploadSlice [(7 : Int32), -1]).perform .off opened).outcome = .ok ⟨⟨0x7f0000000000⟩, 2⟩ ∧
      w'.session.device.memory.bytes output = .ok #[42, 0, 0, 0] ∧
      ((download (⟨⟨0x7f0000000000⟩, 2⟩ : Slice Int32)).perform .off w').outcome =
        .ok [7, -1] := by
  intro d opened w input output later w'
  have hupload : ((uploadSlice [(7 : Int32), -1]).perform .off opened).outcome =
      .ok ⟨⟨0x7f0000000000⟩, 2⟩ := by decide +kernel
  have hspares : Workspace.Spares ⟨0x7f0000000000⟩ .off later w := by decide +kernel
  exact ⟨hupload, by decide +kernel,
    (download_after_upload opened .off [(7 : Int32), -1] later hupload hspares).1⟩

end Program

end Offload
