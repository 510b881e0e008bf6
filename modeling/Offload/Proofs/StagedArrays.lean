/-
**Arrays that are staged for an environment.**

A caller stages arrays one after the other, under names that it chooses, and then the environment
itself.  Each of these calls can fail, for a name that is taken, for want of elements or of memory,
or because the device is told to refuse an allocation or a copy; the caller may go on after a
failure.  Every array that is staged lies in a buffer of its own, at an address that was not given
out before, so that no later call touches it.

The list of arrays lies in the host data, where it is still found when a call has failed.  A call
joins its array to the list at its very end; if it does not get there, then it leaves the host data
as they were.

`Staging.stage` is such a caller, with the results of all its calls.  The invariant `Staging.Staged`
compares the list with these results; one call keeps it, whether or not it succeeds, and so does
every sequence of calls.

Main definitions:

* `Offload.Addition` — a call that stages an array, of any type of elements;
* `Offload.Staging.addEach`, `Offload.Staging.stage` — calls one after the other, and the
  environment behind them;
* `Offload.Staging.Staged` — what is staged is what the calls have returned.

Main results:

* `Offload.Program.uploadSlice_failure` — why a copy of a host array can fail;
* `Offload.Program.keeps_host_uploadSlice`, `Offload.Program.holds_uploadSlice` — a copy of a host
  array leaves the host data and all other arrays alone;
* `Offload.Staging.addArray_cases` — what a call can do;
* `Offload.Staging.Staged.added`, `Offload.Staging.Staged.refused`, `Offload.Staging.Staged.addEach`
  — one call, and every sequence of calls, keeps the invariant;
* `Offload.Staging.staged_as_returned` — **what is staged is what the calls have returned**.
-/

import Offload.Proofs.Arrays
import Offload.Proofs.Diagnostics
import Offload.Proofs.Refusals
import Offload.Session.Staging

set_option autoImplicit false

namespace Offload

/-! ### Why a copy can fail -/

namespace Session

variable {s : Session Emulated} {v : Verbosity} {size : Nat} {e : Failure}

theorem ensureFits_eq_error (h : (ensureFits size v s).outcome = .error e) :
    ∃ free, e = .outOfMemory size free s.config.headroomBytes.toNat := by
  unfold ensureFits at h
  rw [Act.bind_of_ok rfl, Step.after_outcome] at h
  simp only [Act.get_apply] at h
  split at h
  · rcases Act.bind_eq_error.1 h with hinfo | ⟨info, -, hrest⟩
    · have hmemory : Emulated.memoryInfo s.device = .error e := hinfo
      unfold Emulated.memoryInfo at hmemory
      split at hmemory
      · cases hmemory
      · rcases Outcome.bind_eq_error.1 hmemory with hused | ⟨used, -, hpure⟩
        · exact absurd hused (Word.sum_ne_error _ _)
        · cases hpure
    · cases info with
      | none => cases hrest
      | some info =>
          dsimp only at hrest
          split at hrest
          · cases hrest
            exact ⟨info.free, rfl⟩
          · cases hrest
  · cases h

end Session

/-- The reasons for which an array is not allocated or not written. -/
inductive Failure.OfUpload : Failure → Prop
  | overflow (length : Nat) : OfUpload (.invalidInput (.tooManyElements length))
  | empty : OfUpload (.invalidInput .zeroSized)
  | headroom (size free headroom : Nat) : OfUpload (.outOfMemory size free headroom)
  | device (call : DeviceCall) (status : Int32) : OfUpload (.deviceCall call status)

namespace Program

variable {τ α : Type} [Pod α] {old : Emulated} {made : List Allocation}
  {w : Workspace Emulated τ} {v : Verbosity} {e : Failure}

theorem allocSlice_failure {length : Nat}
    (h : ((allocSlice α length).perform v w).outcome = .error e) : e.OfUpload := by
  unfold allocSlice at h
  split at h
  · rw [perform_bind] at h
    rcases Act.bind_eq_error.1 h with hallocate | ⟨address, -, hpure⟩
    · rw [allocate, perform_request] at hallocate
      rcases Session.allocate_eq_error hallocate with ⟨-, rfl, -⟩ | ⟨-, hfits, -⟩ |
        ⟨-, -, hreply, -⟩
      · exact .empty
      · obtain ⟨free, rfl⟩ := Session.ensureFits_eq_error hfits
        exact .headroom _ _ _
      · obtain ⟨⟨status, rfl⟩, -⟩ := Emulated.allocate_eq_error hreply
        exact .device _ _
    · cases hpure
  · cases h
    exact .overflow length

/-- **Why a copy of a host array can fail.** -/
theorem uploadSlice_failure (hold : old.Ordered) (hagrees : w.session.Agrees old made)
    {host : List α} (h : ((uploadSlice host).perform v w).outcome = .error e) : e.OfUpload := by
  unfold uploadSlice at h
  rw [perform_bind] at h
  rcases Act.bind_eq_error.1 h with halloc | ⟨s, halloc, hrest⟩
  · exact allocSlice_failure halloc
  rw [perform_bind] at hrest
  rcases Act.bind_eq_error.1 hrest with hwrite | ⟨_, -, hpure⟩
  · -- the array is there, with room for its elements, so only an injected fault can stop the copy
    obtain ⟨hlength, haddress, hstate⟩ := allocSlice_eq_ok halloc
    obtain ⟨_, hlater⟩ := (allocSlice α host.length).agrees_perform hold v hagrees
    have hmem : s.allocation ∈ ((allocSlice α host.length).perform v w).state.session.tracked := by
      have htracked := (Session.allocate_eq_ok haddress).2.2.2
      rw [hstate]
      have hentry : s.allocation ∈ (Session.allocate (host.length * Pod.width α) v
          w.session).state.tracked := by
        rw [htracked, Slice.allocation, hlength]
        exact List.mem_append_right _ List.mem_cons_self
      exact hentry
    rw [write_outcome (hlater.ready_of_mem hmem) (hlater.held.size? hmem) hlength.symm] at hwrite
    unfold Emulated.unlessInjected at hwrite
    split at hwrite
    · cases hwrite
      exact .device _ _
    · cases hwrite
  · cases hpure

/-! ### What a copy leaves alone -/

section Host

theorem keeps_host_onSession {δ β : Type} (x : Act (Session δ) β) :
    Act.Keeps Workspace.host (Workspace.onSession x : Act (Workspace δ τ) β) :=
  fun _ _ => rfl

variable {δ : Type} [Device δ]

theorem keeps_host_allocSlice (length : Nat) :
    Act.Keeps Workspace.host (perform (allocSlice α length) : Act (Workspace δ τ) (Slice α)) := by
  unfold allocSlice
  split
  · rw [perform_bind, allocate, perform_request]
    exact (keeps_host_onSession _).bind fun _ => Act.keeps_pure _
  · exact Act.keeps_fail _

theorem keeps_host_write (s : Slice α) (host : List α) :
    Act.Keeps Workspace.host (perform (write s host) : Act (Workspace δ τ) Unit) := by
  unfold write
  split
  · rw [store, perform_request]
    exact keeps_host_onSession _
  · rw [perform_bind, Workspace.perform_ofOutcome]
    exact (Act.keeps_ofOutcome _).bind fun _ => Act.keeps_fail _

/-- A copy of a host array leaves the host data alone. -/
theorem keeps_host_uploadSlice (host : List α) :
    Act.Keeps Workspace.host (perform (uploadSlice host) : Act (Workspace δ τ) (Slice α)) := by
  unfold uploadSlice
  simp only [perform_bind]
  exact (keeps_host_allocSlice _).bind fun s => (keeps_host_write s host).bind fun _ =>
    Act.keeps_pure _

/-- A program that first looks at its host data goes on with them. -/
theorem load_bind {β : Type} (f : τ → Program τ β) (v : Verbosity) (w : Workspace δ τ) :
    perform (load >>= f) v w = (f w.host).perform v w := by
  rw [perform_bind, load, perform_request, Act.bind_of_ok rfl]
  exact Step.after_nil _

end Host

theorem find?_allocSlice {address : Address} {b : Buffer} {length : Nat}
    (h : w.session.device.memory.find? address = some b) :
    ((allocSlice α length).perform v w).state.session.device.memory.find? address = some b := by
  unfold allocSlice
  split
  · rw [perform_bind, Act.bind_state fun _ _ => rfl, allocate, perform_request]
    exact Workspace.find?_answer trivial h
  · exact h

/-- A copy of a host array leaves all buffers alone: it goes to a new address. -/
theorem find?_uploadSlice {address : Address} {b : Buffer} (hordered : w.session.device.Ordered)
    (h : w.session.device.memory.find? address = some b) (host : List α) :
    ((uploadSlice host).perform v w).state.session.device.memory.find? address = some b := by
  unfold uploadSlice
  refine bind_ends (R := fun _ (w' : Workspace Emulated τ) =>
    w'.session.device.memory.find? address = some b) ?_ ?_
  · intro _ _ _
    exact find?_allocSlice h
  intro s hs
  obtain ⟨hlength, haddress, -⟩ := allocSlice_eq_ok hs
  have hkept : ((allocSlice α host.length).perform v w).state.session.device.memory.find? address =
      some b := find?_allocSlice h
  have hnew : s.address ≠ address := by
    obtain ⟨-, -, hreply, -⟩ := Session.allocate_eq_ok haddress
    obtain ⟨hfrontier, -⟩ := Emulated.allocate_eq_ok hreply
    have hlive : address ∈ w.session.device.live := by
      by_contra hnot
      rw [Memory.find?_eq_none_iff.2 hnot] at h
      cases h
    rintro rfl
    have hlt := hordered.counted.live_lt _ hlive
    rw [hfrontier, hordered.counted.toNat_frontier] at hlt
    exact Nat.lt_irrefl _ hlt
  rw [perform_bind, Act.bind_state fun _ _ => rfl]
  unfold write
  rw [if_pos hlength.symm, store, perform_request]
  exact Workspace.find?_answer (fun heq => absurd heq hnew) hkept

theorem holds_uploadSlice {β : Type} [Pod β] {address : Address} {l : List β}
    (hordered : w.session.device.Ordered) (h : w.session.device.memory.Holds address l)
    (host : List α) :
    ((uploadSlice host).perform v w).state.session.device.memory.Holds address l := by
  obtain ⟨b, hfind, hbytes⟩ := h
  exact ⟨b, find?_uploadSlice hordered hfind host, hbytes⟩

/-- A copy of a host array that succeeds holds it, and its length fits in a word. -/
theorem uploadSlice_holds {host : List α} {s : Slice α}
    (h : ((uploadSlice host).perform v w).outcome = .ok s) :
    ((uploadSlice host).perform v w).state.session.device.memory.Holds s.address host ∧
      s.toRef.length.toNat = host.length := by
  obtain ⟨hlength, hsmall, -, b, hfind, hbytes⟩ := uploadSlice_eq_ok h
  refine ⟨⟨b, hfind, by rw [hbytes]⟩, ?_⟩
  have hwidth : host.length * Pod.width α ≠ 0 := by
    obtain ⟨s', hs', -⟩ := bind_eq_ok.1 h
    exact (Session.allocate_eq_ok (allocSlice_eq_ok hs').2.1).1
  have hle : host.length ≤ host.length * Pod.width α :=
    Nat.le_mul_of_pos_right _ (Nat.pos_of_ne_zero fun hzero => hwidth (by rw [hzero, Nat.mul_zero]))
  have hlt : Word.largestBlock < UInt64.size := by decide
  rw [Slice.toRef, hlength]
  exact UInt64.toNat_ofNat_of_lt' (by omega)

/-- A failure that is caught is a value. -/
theorem attempt_eq_ok {α : Type} {p : Program τ α} {r : Except Failure α}
    (h : (Program.perform p.attempt v w).outcome = .ok r) :
    ((∃ a, r = .ok a ∧ (p.perform v w).outcome = .ok a) ∨
        ∃ e, r = .error e ∧ (p.perform v w).outcome = .error e) ∧
      (Program.perform p.attempt v w).state = (p.perform v w).state := by
  have hrun : Program.perform p.attempt v w = (p.perform (δ := Emulated)).attempt v w :=
    congrFun (congrFun (Dialogue.run_attempt _ p) v) w
  rw [hrun] at h ⊢
  refine ⟨?_, Act.attempt_state ..⟩
  cases hp : (p.perform v w).outcome with
  | ok a =>
      rw [Act.attempt_of_ok hp] at h
      exact .inl ⟨a, (Outcome.ok.inj h).symm, rfl⟩
  | error e =>
      rw [Act.attempt_of_error hp] at h
      exact .inr ⟨e, (Outcome.ok.inj h).symm, rfl⟩
  | panic c =>
      rw [Act.attempt_of_panic hp] at h
      cases h

end Program

/-! ### Calls one after the other -/

/-- A call that stages an array. -/
structure Addition where
  name : String
  /-- The type of the elements. -/
  element : Type
  [pod : Pod element]
  host : List element

attribute [instance] Addition.pod

/-- A call that stages an array, with its result. -/
abbrev Addition.Result : Type 1 :=
  Addition × Except Failure ArrayRef

/-- What a call adds to the list of arrays. -/
def Addition.entry? : Addition.Result → Option (String × ArrayRef)
  | (a, .ok ref) => some (a.name, ref)
  | (_, .error _) => none

namespace Staging

variable {τ ε : Type} [Pod ε]

/-- Stages arrays one after the other.  The caller goes on after a failure, and keeps all
results. -/
def addEach : List Addition → Program (Staging × τ) (List (Except Failure ArrayRef))
  | [] => pure []
  | a :: rest => do
      let result ← (addArray a.name a.host).attempt
      let results ← addEach rest
      pure (result :: results)

/-- Stages arrays one after the other, and then the environment. -/
def stage (additions : List Addition) (env : ε) :
    Program (Staging × τ) (List (Except Failure ArrayRef) × StagedEnvironment ε) := do
  start
  let results ← addEach additions
  let staged ← finish env
  pure (results, staged)

/-! ### One call -/

section Call

variable {δ α : Type} [Device δ] [Pod α] {name : String} {host : List α} {v : Verbosity}
  {w : Workspace δ (Staging × τ)}

/-- An array that has been copied joins the list. -/
theorem addArray_of_uploaded {slice : Slice α} (hnew : w.host.1.contains name = false)
    (h : ((Program.uploadSlice host).perform v w).outcome = .ok slice) :
    ((addArray name host).perform v w).outcome = .ok slice.toRef ∧
      ((addArray name host).perform v w).state =
        { ((Program.uploadSlice host).perform v w).state with
          host := (w.host.1.push name slice.toRef, w.host.2) } := by
  have hhost := Program.keeps_host_uploadSlice host v w
  have hnote : ∀ (level : Level) (message : String) (fields : List Field)
      (w' : Workspace δ (Staging × τ)),
      (Program.perform (Program.note level message fields) v w').outcome = .ok () ∧
        (Program.perform (Program.note level message fields) v w').state = w' := by
    intro level message fields w'
    rw [Program.note, Program.perform_request]
    exact ⟨rfl, Act.note_state ..⟩
  -- nothing that follows the copy can fail
  unfold addArray
  rw [Program.load_bind, if_neg (Bool.eq_false_iff.1 hnew), Program.bind_outcome_of_ok h,
    Program.bind_state_of_ok h, Program.bind_outcome_of_ok (hnote ..).1,
    Program.bind_state_of_ok (hnote ..).1, (hnote ..).2, Program.load_bind, hhost, Program.save,
    Program.perform_bind, Program.perform_request]
  exact ⟨rfl, rfl⟩

/-- A call under a new name begins with a copy. -/
theorem addArray_of_new (host : List α) (v : Verbosity) (hnew : w.host.1.contains name = false) :
    ∃ k : Slice α → Act (Workspace δ (Staging × τ)) ArrayRef,
      (addArray name host).perform v w =
        (Program.perform (Program.uploadSlice host) >>= k) v w := by
  unfold addArray
  rw [Program.load_bind, if_neg (Bool.eq_false_iff.1 hnew), Program.perform_bind]
  exact ⟨_, rfl⟩

/-- **What a call can do**: it is refused for its name, or it is as good as the copy that it makes.
The host data change only if it succeeds. -/
theorem addArray_cases (name : String) (host : List α) (v : Verbosity)
    (w : Workspace δ (Staging × τ)) :
    let call := (addArray name host).perform v w
    let upload := (Program.uploadSlice host).perform v w
    (w.host.1.contains name = true ∧
        call.outcome = .error (.invalidInput (.arrayAddedTwice name)) ∧ call.state = w) ∨
      (w.host.1.contains name = false ∧ ∃ slice, upload.outcome = .ok slice ∧
        call.outcome = .ok slice.toRef ∧
        call.state = { upload.state with host := (w.host.1.push name slice.toRef, w.host.2) }) ∨
      (w.host.1.contains name = false ∧ (∀ ref, call.outcome ≠ .ok ref) ∧
        (∀ e, call.outcome = .error e → upload.outcome = .error e) ∧
        call.state = upload.state ∧ call.state.host = w.host) := by
  intro call upload
  cases hname : w.host.1.contains name with
  | true =>
      have hcall : call = ⟨.error (.invalidInput (.arrayAddedTwice name)), w, []⟩ := by
        unfold call addArray
        rw [Program.load_bind, if_pos hname]
        rfl
      exact .inl ⟨rfl, by rw [hcall], by rw [hcall]⟩
  | false =>
      have hhost : upload.state.host = w.host := Program.keeps_host_uploadSlice host v w
      obtain ⟨k, hcall⟩ := addArray_of_new host v hname
      cases hupload : ((Program.uploadSlice host).perform v w).outcome with
      | ok slice =>
          exact .inr (.inl ⟨rfl, slice, rfl, addArray_of_uploaded hname hupload⟩)
      | error e =>
          rw [Act.bind_of_error hupload] at hcall
          have houtcome : call.outcome = .error e := congrArg Step.outcome hcall
          have hstate : call.state = upload.state := congrArg Step.state hcall
          refine .inr (.inr ⟨rfl, ?_, ?_, hstate, hstate ▸ hhost⟩) <;> rw [houtcome]
          · rintro ref ⟨⟩
          · rintro e' ⟨⟩
            rfl
      | panic p =>
          rw [Act.bind_of_panic hupload] at hcall
          have houtcome : call.outcome = .panic p := congrArg Step.outcome hcall
          have hstate : call.state = upload.state := congrArg Step.state hcall
          refine .inr (.inr ⟨rfl, ?_, ?_, hstate, hstate ▸ hhost⟩) <;> rw [houtcome]
          · rintro ref ⟨⟩
          · rintro e' ⟨⟩

/-- **A call that does not succeed leaves the list of arrays as it was**, and one that succeeds adds
its array. -/
theorem addArray_host (name : String) (host : List α) (v : Verbosity)
    (w : Workspace δ (Staging × τ)) :
    let call := (addArray name host).perform v w
    (∀ ref, call.outcome = .ok ref → call.state.host = (w.host.1.push name ref, w.host.2)) ∧
      ((∀ ref, call.outcome ≠ .ok ref) → call.state.host = w.host) := by
  intro call
  rcases addArray_cases name host v w with ⟨-, houtcome, hstate⟩ |
    ⟨-, slice, -, houtcome, hstate⟩ | ⟨-, hstopped, -, -, hhost⟩
  · refine ⟨fun ref h => ?_, fun _ => congrArg Workspace.host hstate⟩
    rw [houtcome] at h
    cases h
  · refine ⟨fun ref h => ?_, fun h => absurd houtcome (h _)⟩
    rw [houtcome] at h
    cases h
    exact congrArg Workspace.host hstate
  · exact ⟨fun ref h => absurd h (hstopped ref), fun _ => hhost⟩

end Call

/-! ### The invariant -/

/-- A name is taken by a call that succeeded. -/
def Taken (log : List Addition.Result) (name : String) : Prop :=
  ∃ a ref, (a, .ok ref) ∈ log ∧ a.name = name

/-- A call is refused for its name iff the name was taken before. -/
def Refusals (log : List Addition.Result) : Prop :=
  ∀ before a x after, log = before ++ (a, x) :: after →
    (x = .error (.invalidInput (.arrayAddedTwice a.name)) ↔ Taken before a.name)

theorem Refusals.concat {log : List Addition.Result} (h : Refusals log) {a : Addition}
    {x : Except Failure ArrayRef}
    (hx : x = .error (.invalidInput (.arrayAddedTwice a.name)) ↔ Taken log a.name) :
    Refusals (log ++ [(a, x)]) := by
  intro before b y after hsplit
  -- the call is the last one, or one of those before it
  rcases List.eq_nil_or_concat after with rfl | ⟨after, last, rfl⟩
  · obtain ⟨rfl, hlast⟩ := List.append_inj' hsplit rfl
    obtain ⟨rfl, rfl⟩ := Prod.mk.inj (List.singleton_inj.1 hlast)
    exact hx
  · have hsplit : log ++ [(a, x)] = (before ++ (b, y) :: after) ++ [last] := by
      rw [hsplit]
      simp
    obtain ⟨rfl, -⟩ := List.append_inj' hsplit rfl
    exact h before b y after rfl

/-- What is staged is what the calls have returned.  The device was `old` when the session began. -/
structure Staged (old : Emulated) (log : List Addition.Result)
    (w : Workspace Emulated (Staging × τ)) : Prop where
  agrees : ∃ made, w.session.Agrees old made
  arrays : w.host.1.arrays = log.filterMap Addition.entry?
  nodup : (w.host.1.arrays.map Prod.fst).Nodup
  length : ∀ a ref, (a, .ok ref) ∈ log → ref.length.toNat = a.host.length
  holds : ∀ a ref, (a, .ok ref) ∈ log →
    w.session.device.memory.Holds ref.address a.host
  refusals : Refusals log

section Invariant

variable {old : Emulated} {log : List Addition.Result} {w : Workspace Emulated (Staging × τ)}
  {v : Verbosity} {a : Addition}

/-- A caller begins with an empty list, whatever was staged before. -/
theorem staged_start {made : List Allocation} (h : w.session.Agrees old made) :
    Staged old [] (start.perform v w).state where
  agrees := ⟨made, h⟩
  arrays := rfl
  nodup := .nil
  length := fun _ _ h => nomatch h
  holds := fun _ _ h => nomatch h
  refusals := fun before _ _ _ h => by simp at h

/-- The names in the list are those of the calls that succeeded. -/
theorem Staged.mem_names_iff (h : Staged old log w) {name : String} :
    name ∈ w.host.1.arrays.map Prod.fst ↔ Taken log name := by
  rw [h.arrays]
  simp only [List.mem_map, List.mem_filterMap]
  constructor
  · rintro ⟨_, ⟨⟨a, x⟩, hmem, hentry⟩, rfl⟩
    cases x with
    | ok ref =>
        cases hentry
        exact ⟨a, ref, hmem, rfl⟩
    | error e => cases hentry
  · rintro ⟨a, ref, hmem, rfl⟩
    exact ⟨(a.name, ref), ⟨_, hmem, rfl⟩, rfl⟩

theorem contains_iff (s : Staging) (name : String) :
    s.contains name = true ↔ name ∈ s.arrays.map Prod.fst := by
  simp [contains]

theorem Staged.contains_iff_taken (h : Staged old log w) {name : String} :
    w.host.1.contains name = true ↔ Taken log name := by
  rw [contains_iff, h.mem_names_iff]

/-- What an upload that follows keeps of the invariant. -/
theorem Staged.holds_after (h : Staged old log w) {α : Type} [Pod α]
    (host : List α) (v : Verbosity) {b : Addition} {ref : ArrayRef} (hb : (b, .ok ref) ∈ log) :
    ((Program.uploadSlice host).perform v w).state.session.device.memory.Holds ref.address
      b.host := by
  obtain ⟨made, hagrees⟩ := h.agrees
  exact Program.holds_uploadSlice hagrees.ordered (h.holds b ref hb) host

/-- **A call that succeeds keeps the invariant.** -/
theorem Staged.added (h : Staged old log w) (hold : old.Ordered) {ref : ArrayRef}
    (hadd : ((addArray a.name a.host).perform v w).outcome = .ok ref) :
    Staged old (log ++ [(a, .ok ref)]) ((addArray a.name a.host).perform v w).state := by
  rcases addArray_cases a.name a.host v w with ⟨-, houtcome, -⟩ |
    ⟨hnew, slice, hslice, houtcome, hstate⟩ | ⟨-, hstopped, -⟩
  · rw [houtcome] at hadd
    cases hadd
  · rw [houtcome] at hadd
    cases hadd
    obtain ⟨hplaced, hlength⟩ := Program.uploadSlice_holds hslice
    have hfresh : a.name ∉ w.host.1.arrays.map Prod.fst := by
      rw [← contains_iff, hnew]
      exact Bool.false_ne_true
    obtain ⟨made, hagrees⟩ := h.agrees
    obtain ⟨later, hlater⟩ := (Program.uploadSlice a.host).agrees_perform hold v hagrees
    rw [hstate]
    refine ⟨⟨_, hlater⟩, ?_, ?_, ?_, ?_, h.refusals.concat ?_⟩
    · dsimp only [push]
      rw [h.arrays, List.filterMap_append]
      rfl
    · dsimp only [push]
      rw [List.map_append, List.map_singleton, ← List.concat_eq_append]
      exact h.nodup.concat hfresh
    · intro b r hb
      rcases List.mem_append.1 hb with hb | hb
      · exact h.length b r hb
      · cases List.mem_singleton.1 hb
        exact hlength
    · intro b r hb
      rcases List.mem_append.1 hb with hb | hb
      · exact h.holds_after a.host v hb
      · cases List.mem_singleton.1 hb
        exact hplaced
    · rw [← h.contains_iff_taken, hnew]
      exact ⟨fun h => (nomatch h), fun h => absurd h Bool.false_ne_true⟩
  · exact absurd hadd (hstopped ref)

/-- **A call that fails keeps the invariant**, with the list as it was. -/
theorem Staged.refused (h : Staged old log w) (hold : old.Ordered) {e : Failure}
    (hadd : ((addArray a.name a.host).perform v w).outcome = .error e) :
    Staged old (log ++ [(a, .error e)]) ((addArray a.name a.host).perform v w).state := by
  have harrays : log.filterMap Addition.entry? =
      (log ++ [((a, .error e) : Addition.Result)]).filterMap Addition.entry? := by
    rw [List.filterMap_append]
    exact (List.append_nil _).symm
  have hlog : ∀ (b : Addition) (r : ArrayRef),
      (b, Except.ok r) ∈ log ++ [(a, .error e)] → (b, .ok r) ∈ log := by
    intro b r hb
    rcases List.mem_append.1 hb with hb | hb
    · exact hb
    · cases List.mem_singleton.1 hb
  obtain ⟨made, hagrees⟩ := h.agrees
  rcases addArray_cases a.name a.host v w with ⟨htaken, houtcome, hstate⟩ |
    ⟨-, slice, -, houtcome, -⟩ | ⟨hnew, -, hupload, hstate, hhost⟩
  · rw [houtcome] at hadd
    cases hadd
    rw [hstate]
    refine ⟨h.agrees, h.arrays.trans harrays, h.nodup, fun b r hb => h.length b r (hlog b r hb),
      fun b r hb => h.holds b r (hlog b r hb), h.refusals.concat ?_⟩
    rw [← h.contains_iff_taken, htaken]
    exact ⟨fun _ => rfl, fun _ => rfl⟩
  · rw [houtcome] at hadd
    cases hadd
  · obtain ⟨later, hlater⟩ := (Program.uploadSlice a.host).agrees_perform hold v hagrees
    rw [hstate] at hhost ⊢
    refine ⟨⟨_, hlater⟩, ?_, ?_, fun b r hb => h.length b r (hlog b r hb),
      fun b r hb => h.holds_after a.host v (hlog b r hb), h.refusals.concat ?_⟩
    · rw [hhost]
      exact h.arrays.trans harrays
    · rw [hhost]
      exact h.nodup
    · rw [← h.contains_iff_taken, hnew]
      refine ⟨fun htwice => ?_, fun h => absurd h Bool.false_ne_true⟩
      -- a name that is not taken is no reason to fail
      have hreason := Program.uploadSlice_failure hold hagrees (hupload e hadd)
      rw [Except.error.inj htwice] at hreason
      cases hreason

/-- **Every sequence of calls keeps the invariant.** -/
theorem Staged.addEach (hold : old.Ordered) (additions : List Addition) (h : Staged old log w)
    {results : List (Except Failure ArrayRef)}
    (hadd : ((Staging.addEach additions).perform v w).outcome = .ok results) :
    results.length = additions.length ∧ Staged old (log ++ additions.zip results)
      ((Staging.addEach additions).perform v w).state := by
  -- on the calls that are left; the log of those that were made is arbitrary
  induction additions generalizing log w results with
  | nil =>
      cases hadd
      rw [List.zip_nil_left, List.append_nil]
      exact ⟨rfl, h⟩
  | cons a rest ih =>
      unfold Staging.addEach at hadd ⊢
      obtain ⟨r, hr, hrest⟩ := Program.bind_eq_ok.1 hadd
      obtain ⟨hcases, hstate⟩ := Program.attempt_eq_ok hr
      have hcall : Staged old (log ++ [(a, r)])
          (Program.perform (addArray a.name a.host).attempt v w).state := by
        rw [hstate]
        rcases hcases with ⟨ref, rfl, hok⟩ | ⟨e, rfl, herror⟩
        · exact h.added hold hok
        · exact h.refused hold herror
      obtain ⟨results', hmore, hpure⟩ := Program.bind_eq_ok.1 hrest
      cases hpure
      obtain ⟨hlength, hstaged⟩ := ih hcall hmore
      rw [Program.bind_state_of_ok hr, Program.bind_state_of_ok hmore]
      rw [List.append_assoc, List.singleton_append] at hstaged
      exact ⟨congrArg Nat.succ hlength, hstaged⟩

end Invariant

/-! ### The environment -/

/-- Where names are not repeated, a reference is found under its name. -/
theorem lookup_of_nodup {arrays : List (String × ArrayRef)} (h : (arrays.map Prod.fst).Nodup)
    {name : String} {ref : ArrayRef} (hmem : (name, ref) ∈ arrays) :
    arrays.lookup name = some ref := by
  obtain ⟨before, after, rfl⟩ := List.append_of_mem hmem
  rw [List.map_append, List.map_cons, List.nodup_append] at h
  refine List.lookup_eq_some_iff.2 ⟨before, after, rfl, fun p hp => ?_⟩
  have hne : p.1 ≠ name := h.2.2 p.1 (List.mem_map_of_mem hp) name List.mem_cons_self
  simpa using hne.symm

/-- An environment that is staged has been copied, and gets the list as it is. -/
theorem finish_eq_ok {δ : Type} [Device δ] {env : ε} {v : Verbosity}
    {w : Workspace δ (Staging × τ)} {staged : StagedEnvironment ε}
    (h : ((finish env).perform v w).outcome = .ok staged) :
    staged.arrays = w.host.1.arrays ∧
      ((Program.upload env).perform v w).outcome = .ok staged.env ∧
      ((finish env).perform v w).state = ((Program.upload env).perform v w).state := by
  have hhost : ((Program.upload env).perform v w).state.host = w.host :=
    Program.keeps_host_uploadSlice [env] v w
  obtain ⟨slice, hslice, hload⟩ := Program.bind_eq_ok.1 h
  rw [Program.load_bind, hhost] at hload
  cases hload
  refine ⟨rfl, hslice, ?_⟩
  unfold finish
  rw [Program.bind_state_of_ok hslice, Program.load_bind]
  rfl

/-- **What is staged is what the calls have returned.**

A call that stages an array adds it to the list if it succeeds, and leaves the host data as they
were if it does not.

Take a session on any device that operations can lead to, after any requests, and any calls that
stage arrays, followed by an environment that is staged as well.  The list of arrays has the names
and the references that the successful calls returned, in their order, and no name twice.  So a
reference is found under the name of the one call that returned it, and nothing under any other
name.  Each reference has the length of its host array, its buffer holds the bytes of that array,
and the buffer of the environment those of the environment.  A call is refused for its name iff an
earlier call with that name succeeded, so that a call that failed can be made again. -/
theorem staged_as_returned {d : Emulated} (hd : d.Reachable) (config : Config) (t : Staging × τ)
    (v : Verbosity) (qs : List (Request (Staging × τ))) (additions : List Addition) (env : ε)
    {results : List (Except Failure ArrayRef)} {staged : StagedEnvironment ε}
    (hstage : ((stage additions env).perform v
      (Workspace.after v qs ⟨Session.start d config, t⟩)).outcome = .ok (results, staged)) :
    let memory := ((stage additions env).perform v
      (Workspace.after v qs ⟨Session.start d config, t⟩)).state.session.device.memory
    let log : List Addition.Result := additions.zip results
    (∀ (a : Addition) (w : Workspace Emulated (Staging × τ)),
      let call := (addArray a.name a.host).perform v w
      (∀ ref, call.outcome = .ok ref → call.state.host = (w.host.1.push a.name ref, w.host.2)) ∧
        ((∀ ref, call.outcome ≠ .ok ref) → call.state.host = w.host)) ∧
      results.length = additions.length ∧
      staged.arrays = log.filterMap Addition.entry? ∧ (staged.arrays.map Prod.fst).Nodup ∧
      (∀ a ref, (a, .ok ref) ∈ log → staged.array? a.name = some ref ∧
        ref.length.toNat = a.host.length ∧ memory.Holds ref.address a.host) ∧
      (∀ name, ¬ Taken log name → staged.array? name = none) ∧
      staged.env.length = 1 ∧ memory.Holds staged.env.address [env] ∧ Refusals log := by
  intro memory log
  have hold := hd.ordered
  have hagrees := Workspace.agrees_after hold v qs (w := ⟨Session.start d config, t⟩)
    (Session.agrees_start hold config)
  generalize hw : Workspace.after v qs ⟨Session.start d config, t⟩ = w at hstage hagrees
  obtain ⟨_, hstart, hrest⟩ := Program.bind_eq_ok.1 hstage
  obtain ⟨results', hadd, hrest⟩ := Program.bind_eq_ok.1 hrest
  obtain ⟨staged', hfinish, hpure⟩ := Program.bind_eq_ok.1 hrest
  cases hpure
  obtain ⟨harrays, hslice, hfinished⟩ := finish_eq_ok hfinish
  obtain ⟨hlength, hstaged⟩ := (staged_start hagrees).addEach hold additions hadd
  rw [List.nil_append] at hstaged
  -- the environment is the last array, and leaves the others alone
  have hmemory : memory = ((Program.upload env).perform v ((addEach additions).perform v
      (start.perform v w).state).state).state.session.device.memory := by
    simp only [memory, stage, hw]
    rw [Program.bind_state_of_ok hstart, Program.bind_state_of_ok hadd,
      Program.bind_state_of_ok hfinish, ← hfinished]
    rfl
  rw [hmemory]
  refine ⟨fun a w => addArray_host a.name a.host v w, hlength, harrays.trans hstaged.arrays,
    harrays ▸ hstaged.nodup, fun a ref hmem => ?_, fun name hnot => ?_,
    (Program.uploadSlice_eq_ok hslice).1, (Program.uploadSlice_holds hslice).1, hstaged.refusals⟩
  · refine ⟨?_, hstaged.length a ref hmem, hstaged.holds_after [env] v hmem⟩
    rw [StagedEnvironment.array?, harrays]
    refine lookup_of_nodup hstaged.nodup ?_
    rw [hstaged.arrays]
    exact List.mem_filterMap.2 ⟨_, hmem, rfl⟩
  · rw [StagedEnvironment.array?, harrays]
    refine List.lookup_eq_none_iff.2 fun p hp => ?_
    have hne : p.1 ≠ name := by
      rintro rfl
      exact hnot (hstaged.mem_names_iff.1 (List.mem_map_of_mem hp))
    simpa using hne.symm

/-- A name that is taken and an array without elements are refused; the second name is free after
that. -/
theorem staged_after_refusals :
    let d := Emulated.after .off [.call (.select 0), .call .reset] Emulated.new
    let additions : List Addition := [⟨"x", UInt32, [1, 2]⟩, ⟨"x", UInt8, [9]⟩, ⟨"y", UInt16, []⟩,
      ⟨"y", UInt16, [5]⟩]
    let w : Workspace Emulated (Staging × Unit) :=
      Workspace.after .off [.allocate 16] ⟨Session.start d {}, {}, ()⟩
    ∃ results staged,
      ((stage additions (7 : UInt64)).perform .off w).outcome = .ok (results, staged) ∧
        results = [.ok ⟨⟨0x7f0000000100⟩, 2⟩, .error (.invalidInput (.arrayAddedTwice "x")),
          .error (.invalidInput .zeroSized), .ok ⟨⟨0x7f0000000200⟩, 1⟩] ∧
        d.Reachable ∧ (staged.arrays.map Prod.fst).Nodup ∧
        staged.array? "y" = some ⟨⟨0x7f0000000200⟩, 1⟩ ∧ staged.array? "z" = none := by
  intro d additions w
  have hd : d.Reachable :=
    (Emulated.Reachable.fresh 1 none {}).after .off [.call (.select 0), .call .reset]
  have hstage : ∃ results staged,
      ((stage additions (7 : UInt64)).perform .off w).outcome = .ok (results, staged) ∧
        results = [.ok ⟨⟨0x7f0000000100⟩, 2⟩, .error (.invalidInput (.arrayAddedTwice "x")),
          .error (.invalidInput .zeroSized), .ok ⟨⟨0x7f0000000200⟩, 1⟩] := by
    have hresults : Prod.fst <$> ((stage additions (7 : UInt64)).perform .off w).outcome =
        .ok [.ok ⟨⟨0x7f0000000100⟩, 2⟩, .error (.invalidInput (.arrayAddedTwice "x")),
          .error (.invalidInput .zeroSized), .ok ⟨⟨0x7f0000000200⟩, 1⟩] := by decide +kernel
    cases houtcome : ((stage additions (7 : UInt64)).perform .off w).outcome with
    | ok p =>
        rw [houtcome] at hresults
        exact ⟨p.1, p.2, rfl, Outcome.ok.inj hresults⟩
    | error e =>
        rw [houtcome] at hresults
        cases hresults
    | panic c =>
        rw [houtcome] at hresults
        cases hresults
  obtain ⟨results, staged, hok, rfl⟩ := hstage
  obtain ⟨-, -, -, hnodup, hfound, hother, -⟩ :=
    staged_as_returned hd {} ({}, ()) .off [.allocate 16] additions 7 hok
  refine ⟨_, staged, hok, rfl, hd, hnodup, (hfound ⟨"y", UInt16, [5]⟩ _ ?_).1, hother "z" ?_⟩
  · simp [additions]
  · rintro ⟨a, ref, hmem, hname⟩
    simp only [additions, List.zip_cons_cons, List.zip_nil_left, List.mem_cons, Prod.mk.injEq,
      List.not_mem_nil, or_false] at hmem
    rcases hmem with ⟨rfl, -⟩ | ⟨rfl, -⟩ | ⟨rfl, -⟩ | ⟨rfl, -⟩ <;>
      exact absurd hname (by decide)

end Staging

end Offload
