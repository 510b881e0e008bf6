/-
**Every allocation is released exactly once.**

A session owns what the device gives out through it.  A program may free an allocation early, at any
point and in any order, it may ask for addresses that the session does not own, and it may end by a
value, a failure or a panic; the rest is freed by the orderly end of the session or, after a panic,
by the release that is made then.  Together they free every address that was given out, each one
once, even if the device refuses to free some of them.

The proof follows the books of a session on a watched device: what it tracks, and the transfers so
far.  `Books.Move` says all that one request can do to them, and the books stay in order under each
of its cases, unless the device gives out an address that is still held.  The rest is an induction
over the programs of the job.

Main definitions:

* `Offload.Dialogue.trail` — the questions that a dialogue asks, each with its state;
* `Offload.Run.earlyFrees` — the addresses that the programs of a job free themselves;
* `Offload.Books`, `Offload.Books.Move`, `Offload.Books.Sound` — the books, what a request does to
  them, and that they are in order.

Main results:

* `Offload.Workspace.move_answer`, `Offload.Books.Move.sound` — one request keeps the books in
  order;
* `Offload.Program.sound_perform` — so does every program;
* `Offload.Session.teardown_watched` — an orderly end frees what is left, in order, and reports the
  first refusal;
* `Offload.Run.run_frees_exactly_once` — **a run frees every allocation exactly once**.
-/

import Offload.Proofs.Endings
import Offload.Proofs.Custody
import Offload.Proofs.Emulated.Operations

set_option autoImplicit false

namespace Offload

/-! ### The trail of a program -/

namespace Dialogue

variable {Q : Type} {A : Q → Type} {α σ τ : Type}

/-- The questions that a dialogue asks, each with the state in which it is asked. -/
def trail (answer : (q : Q) → Act σ (A q)) : Dialogue Q A α → Verbosity → σ → List (σ × Q)
  | done _, _, _ => []
  | fail _, _, _ => []
  | panic _, _, _ => []
  | ask q next, v, s =>
      (s, q) :: match (answer q v s).outcome with
        | .ok a => (next (.ok a)).trail answer v (answer q v s).state
        | .error e => (next (.error e)).trail answer v (answer q v s).state
        | .panic _ => []

/-- The trail of a dialogue is seen through a view as the dialogue itself is. -/
theorem trail_lifts {view : σ → τ} {answer : (q : Q) → Act σ (A q)}
    {answer' : (q : Q) → Act τ (A q)} (h : ∀ q, Act.Lifts view (answer q) (answer' q))
    (p : Dialogue Q A α) (v : Verbosity) (s : σ) :
    p.trail answer' v (view s) = (p.trail answer v s).map (Prod.map view id) := by
  induction p generalizing s with
  | done a => rfl
  | fail e => rfl
  | panic p => rfl
  | ask q next ih =>
      simp only [trail, List.map_cons, Prod.map_apply, id, (h q).outcome, (h q).state]
      cases (answer q v s).outcome with
      | ok a => simp only [ih]
      | error e => simp only [ih]
      | panic p => rfl

end Dialogue

/-- The address of a request to free one that the session still owns. -/
def Workspace.lookedUp {δ τ : Type} : Workspace δ τ × Request τ → Option Address
  | (w, .free address) => if w.session.owns address then some address else none
  | _ => none

/-- The addresses that a program frees itself: those of its requests to free an address that the
session owns, in order. -/
def Program.earlyFrees {δ τ α : Type} [Device δ] (p : Program τ α) (v : Verbosity)
    (w : Workspace δ τ) : List Address :=
  (p.trail Workspace.answer v w).filterMap Workspace.lookedUp

/-- The addresses that the programs of a job free themselves in a run. -/
def Run.earlyFrees {δ τ ε σ ρ : Type} [Device δ] (config : Config) (job : Job τ ε σ ρ) (env : ε)
    (v : Verbosity) (s : δ × τ) : List Address :=
  match (setup config v s.1).outcome with
  | .ok () => (job.script env).earlyFrees v (opening config v s)
  | _ => []

/-- Watching a device does not change what a program frees. -/
theorem Program.earlyFrees_watched {δ τ α : Type} [Device δ] (p : Program τ α) (v : Verbosity)
    (w : Workspace (Watched δ) τ) :
    p.earlyFrees v (w.map Watched.device id) = p.earlyFrees v w := by
  simp only [earlyFrees]
  rw [Dialogue.trail_lifts (Workspace.lifts_answer Watched.isView), List.filterMap_map]
  congr 1
  funext ⟨w, q⟩
  cases q <;> rfl

/-! ### The books of a session -/

/-- What a session and its device know about the ownership of memory. -/
structure Books where
  tracked : List Allocation
  history : History

namespace Books

/-- The addresses that the session owns. -/
def owned (b : Books) : List Address :=
  b.tracked.map Allocation.address

/-- What one operation of a session can do to its books, and the address that it looked up to free
it. -/
inductive Move : Books → Option Address → Books → Prop
  /-- No memory is moved. -/
  | rest (b : Books) : Move b none b
  /-- The device does not allocate. -/
  | refused (b : Books) (size : Nat) {reply : Outcome Address} (h : ∀ a, reply ≠ .ok a) :
      Move b none { b with history := b.history ++ [.allocate size reply] }
  /-- The device gives out an address that the session owns already. -/
  | repeated (b : Books) (size : Nat) {address : Address} (h : address ∈ b.owned) :
      Move b none { b with history := b.history ++ [.allocate size (.ok address)] }
  /-- The device gives out a new address. -/
  | granted (b : Books) (size : Nat) (address : Address) :
      Move b none ⟨b.tracked ++ [⟨address, size⟩], b.history ++ [.allocate size (.ok address)]⟩
  /-- An address of the session is freed. -/
  | freed (b : Books) {address : Address} (reply : Outcome Unit) (h : address ∈ b.owned) :
      Move b (some address) ⟨b.tracked.eraseP fun a => a.address = address,
        b.history ++ [.free address reply]⟩

/-- The books are in order: the session owns what is held, and only held addresses were freed. -/
structure Sound (b : Books) : Prop where
  owned_eq : b.owned = b.history.held
  lawful : b.history.Lawful

theorem owned_eraseP (l : List Allocation) (address : Address) :
    (l.eraseP fun a => a.address = address).map Allocation.address =
      (l.map Allocation.address).erase address := by
  rw [List.erase_eq_eraseP, List.eraseP_map]
  congr 2
  funext a
  exact decide_eq_decide.2 eq_comm

theorem Move.history_grows {b b' : Books} {l : Option Address} (h : Move b l b') :
    b.history <+: b'.history := by
  cases h with
  | rest => exact List.prefix_refl _
  | refused => exact List.prefix_append _ _
  | repeated => exact List.prefix_append _ _
  | granted => exact List.prefix_append _ _
  | freed => exact List.prefix_append _ _

/-- **One operation keeps the books in order**, unless the device gives out a held address; what it
looked up is what it frees. -/
theorem Move.sound {b b' : Books} {l : Option Address} (h : Move b l b') (hb : b.Sound)
    (hfresh : b'.history.Fresh) :
    b'.Sound ∧ b'.history.freed = b.history.freed ++ l.toList := by
  cases h with
  | rest => exact ⟨hb, (List.append_nil _).symm⟩
  | refused size hreply =>
      rename_i reply
      have hheld : (b.history ++ [Transfer.allocate size reply]).held = b.history.held := by
        cases reply with
        | ok a => exact absurd rfl (hreply a)
        | error e => simp [Transfer.settle]
        | panic p => simp [Transfer.settle]
      refine ⟨⟨hb.owned_eq.trans hheld.symm, hb.lawful.concat fun _ _ h => ?_⟩, ?_⟩
      · cases h
      · simp [Transfer.freed?]
  | repeated size hmem =>
      rename_i address
      -- the session owns what is held, so the device gave out a held address
      rw [hb.owned_eq] at hmem
      exact absurd hmem (hfresh b.history size address [] rfl)
  | granted size address =>
      refine ⟨⟨?_, hb.lawful.concat fun _ _ h => ?_⟩, ?_⟩
      · simp only [owned, List.map_append, List.map_cons, List.map_nil, History.held_concat,
          Transfer.settle, ← hb.owned_eq]
      · cases h
      · simp [Transfer.freed?]
  | freed reply hmem =>
      rename_i address
      refine ⟨⟨?_, hb.lawful.concat fun _ _ h => ?_⟩, ?_⟩
      · simp only [owned, owned_eraseP, History.held_concat, Transfer.settle, ← hb.owned_eq]
      · cases h
        rwa [← hb.owned_eq]
      · simp [Transfer.freed?]

end Books

namespace Session

variable {δ : Type}

/-- The books of a session on a watched device. -/
def books (s : Session (Watched δ)) : Books :=
  ⟨s.tracked, s.device.history⟩

theorem owns_iff {δ : Type} (s : Session δ) (address : Address) :
    s.owns address = true ↔ address ∈ s.tracked.map Allocation.address := by
  simp [owns]

/-- Recording an address that the session owns panics and changes nothing. -/
theorem record_of_owned {s : Session δ} {a : Allocation} (h : s.owns a.address = true)
    (v : Verbosity) : record a v s = ⟨.panic (.recordedTwice a.address), s, []⟩ := by
  unfold record
  rw [Act.bind_of_ok (rfl : (Act.get v s).outcome = .ok s)]
  simp [h]

theorem record_of_new {s : Session δ} {a : Allocation} (h : s.owns a.address = false)
    (v : Verbosity) :
    record a v s = ⟨.ok (), { s with tracked := s.tracked ++ [a] }, []⟩ := by
  unfold record
  rw [Act.bind_of_ok (rfl : (Act.get v s).outcome = .ok s)]
  simp [h]

variable [Device δ]

/-- Checking that an allocation fits changes nothing. -/
theorem ensureFits_state (size : Nat) (v : Verbosity) (s : Session δ) :
    (ensureFits size v s).state = s := by
  unfold ensureFits
  rw [Act.bind_of_ok (rfl : (Act.get v s).outcome = .ok s), Step.after_state]
  split
  · rw [Act.bind_state]
    · rfl
    · intro info s'
      cases info with
      | none => rfl
      | some info => dsimp only; split <;> rfl
  · rfl

theorem books_onDevice_allocate (size : Nat) (v : Verbosity) (s : Session (Watched δ)) :
    (onDevice (Device.allocate size) v s).state.books =
      { s.books with history := s.books.history ++
          [.allocate size (onDevice (Device.allocate size) v s).outcome] } := rfl

/-- An allocation, as its books see it. -/
theorem move_allocate (size : Nat) (v : Verbosity) (s : Session (Watched δ)) :
    Books.Move s.books none (allocate size v s).state.books := by
  unfold allocate
  split
  · exact Books.Move.rest _
  · have hfits := ensureFits_state size v s
    cases hcheck : (ensureFits size v s).outcome with
    | error e => rw [Act.bind_of_error hcheck, hfits]; exact Books.Move.rest _
    | panic p => rw [Act.bind_of_panic hcheck, hfits]; exact Books.Move.rest _
    | ok u =>
        rw [Act.bind_of_ok hcheck, Step.after_state, hfits]
        have hbooks := books_onDevice_allocate size v s
        cases hreply : (onDevice (Device.allocate size) v s).outcome with
        | error e =>
            rw [Act.bind_of_error hreply, hbooks, hreply]
            exact Books.Move.refused _ size fun a h => nomatch h
        | panic p =>
            rw [Act.bind_of_panic hreply, hbooks, hreply]
            exact Books.Move.refused _ size fun a h => nomatch h
        | ok address =>
            rw [Act.bind_of_ok hreply, Step.after_state]
            rw [hreply] at hbooks
            generalize (onDevice (Device.allocate size) v s).state = s' at hbooks
            have htracked : s'.tracked = s.tracked := congrArg Books.tracked hbooks
            cases howns : s'.owns address with
            | true =>
                have hrecord := record_of_owned (a := ⟨address, size⟩) howns v
                rw [Act.bind_of_panic (by rw [hrecord]), hrecord, hbooks]
                refine Books.Move.repeated _ size ?_
                rwa [owns_iff, htracked] at howns
            | false =>
                have hrecord := record_of_new (a := ⟨address, size⟩) howns v
                rw [Act.bind_of_ok (by rw [hrecord]), Step.after_state, hrecord]
                -- the event after the record changes nothing, even if its fields overflow
                rw [Act.bind_of_ok rfl, Step.after_state, Act.bind_state fun _ _ => rfl,
                  Act.note_state]
                have hafter : books { s' with tracked := s'.tracked ++ [⟨address, size⟩] } =
                    ⟨s.books.tracked ++ [⟨address, size⟩],
                      s.books.history ++ [.allocate size (.ok address)]⟩ := by
                  rw [books, htracked]
                  exact congrArg (Books.mk _) (congrArg Books.history hbooks)
                exact hafter ▸ Books.Move.granted _ size address

/-- An early free, as its books see it: an address that is not owned is not passed on. -/
theorem move_free (address : Address) (v : Verbosity) (s : Session (Watched δ)) :
    Books.Move s.books (if s.owns address then some address else none)
      (free address v s).state.books := by
  unfold free
  rw [Act.bind_of_ok (rfl : (Act.get v s).outcome = .ok s), Step.after_state]
  cases hfind : s.tracked.find? fun a => a.address = address with
  | none =>
      have howns : s.owns address = false := by
        simpa [owns] using hfind
      rw [howns]
      exact Books.Move.rest _
  | some a =>
      have howns : s.owns address = true := by
        have hmem := List.mem_of_find?_eq_some hfind
        have heq := List.find?_some hfind
        exact List.any_eq_true.2 ⟨a, hmem, heq⟩
      rw [howns]
      exact Books.Move.freed s.books _ ((owns_iff s address).1 howns)

/-- A launch moves no memory, whether or not its event can be recorded. -/
theorem books_launch (kernel : String) (geometry : Geometry) (args : List Arg) (v : Verbosity)
    (s : Session (Watched δ)) : (launch kernel geometry args v s).state.books = s.books := by
  unfold launch
  rw [Act.bind_of_ok (rfl : (Act.get v s).outcome = .ok s), Step.after_state]
  rw [Act.bind_apply]
  split
  · rw [Step.after_state, Act.note_state]
    rfl
  · exact congrArg books (Act.note_state ..)
  · exact congrArg books (Act.note_state ..)

theorem books_fetch (address : Address) (size : Nat) (v : Verbosity)
    (s : Session (Watched δ)) : (fetch address size v s).state.books = s.books := by
  unfold fetch
  split <;> rfl

end Session

/-- **One request keeps to the books**: one case for each thing that a program may ask for. -/
theorem Workspace.move_answer {δ τ : Type} [Device δ] (q : Request τ) (v : Verbosity)
    (w : Workspace (Watched δ) τ) :
    Books.Move w.session.books (lookedUp (w, q)) (answer q v w).state.session.books := by
  cases q with
  | allocate size => exact Session.move_allocate size v w.session
  | free address => exact Session.move_free address v w.session
  | store address bytes => exact Books.Move.rest _
  | fetch address size =>
      have h := Session.books_fetch address size v w.session
      exact (congrArg (Books.Move _ none) h).mpr (Books.Move.rest _)
  | launch kernel geometry args =>
      have h := Session.books_launch kernel geometry args v w.session
      exact (congrArg (Books.Move _ none) h).mpr (Books.Move.rest _)
  | synchronize => exact Books.Move.rest _
  | inspect => exact Books.Move.rest _
  | note level message fields => exact Books.Move.rest _
  | load => exact Books.Move.rest _
  | save data => exact Books.Move.rest _

namespace Program

variable {δ τ α : Type} [Device δ]

/-- What a program does after its first request. -/
theorem perform_ask (q : Request τ) (next : Except Failure q.Answer → Program τ α)
    (v : Verbosity) (w : Workspace δ τ) :
    (∃ r, (Program.perform (.ask q next) v w).state =
          ((next r).perform v (Workspace.answer q v w).state).state ∧
        Program.earlyFrees (.ask q next) v w = (Workspace.lookedUp (w, q)).toList ++
          (next r).earlyFrees v (Workspace.answer q v w).state) ∨
      ((Program.perform (.ask q next) v w).state = (Workspace.answer q v w).state ∧
        Program.earlyFrees (.ask q next) v w = (Workspace.lookedUp (w, q)).toList) := by
  have htrail : Program.earlyFrees (.ask q next) v w = (Workspace.lookedUp (w, q)).toList ++
      match (Workspace.answer q v w).outcome with
      | .ok a => (next (.ok a)).earlyFrees v (Workspace.answer q v w).state
      | .error e => (next (.error e)).earlyFrees v (Workspace.answer q v w).state
      | .panic _ => [] := by
    simp only [earlyFrees, Dialogue.trail, List.filterMap_cons]
    cases Workspace.lookedUp (w, q) <;> cases (Workspace.answer q v w).outcome <;> rfl
  rw [htrail]
  change (∃ r, (((Workspace.answer q).attempt >>= fun r => (next r).perform) v w).state = _ ∧ _) ∨
    (((Workspace.answer q).attempt >>= fun r => (next r).perform) v w).state = _ ∧ _
  cases h : (Workspace.answer q v w).outcome with
  | ok a =>
      refine Or.inl ⟨.ok a, ?_, rfl⟩
      rw [Act.bind_of_ok (Act.attempt_of_ok h), Step.after_state, Act.attempt_state]
  | error e =>
      refine Or.inl ⟨.error e, ?_, rfl⟩
      rw [Act.bind_of_ok (Act.attempt_of_error h), Step.after_state, Act.attempt_state]
  | panic p =>
      refine Or.inr ⟨?_, List.append_nil _⟩
      rw [Act.bind_of_panic (Act.attempt_of_panic h), Act.attempt_state]

/-- The history of a device only grows. -/
theorem history_grows (p : Program τ α) (v : Verbosity) (w : Workspace (Watched δ) τ) :
    w.session.books.history <+: (p.perform v w).state.session.books.history := by
  induction p generalizing w with
  | done a => exact List.prefix_refl _
  | fail e => exact List.prefix_refl _
  | panic p => exact List.prefix_refl _
  | ask q next ih =>
      have hfirst := (Workspace.move_answer q v w).history_grows
      refine Dialogue.run_ask_keeps (P := fun w' : Workspace (Watched δ) τ =>
        w.session.books.history <+: w'.session.books.history) hfirst ?_
      intro r w' hlater
      exact hlater.trans (ih r w')

/-- **A program keeps its books in order** and frees what it looks up: what one request keeps, by
induction over the program. -/
theorem sound_perform (p : Program τ α) (v : Verbosity) (w : Workspace (Watched δ) τ)
    (hb : w.session.books.Sound)
    (hfresh : (p.perform v w).state.session.books.history.Fresh) :
    (p.perform v w).state.session.books.Sound ∧
      (p.perform v w).state.session.books.history.freed =
        w.session.books.history.freed ++ p.earlyFrees v w := by
  induction p generalizing w with
  | done a => exact ⟨hb, (List.append_nil _).symm⟩
  | fail e => exact ⟨hb, (List.append_nil _).symm⟩
  | panic p => exact ⟨hb, (List.append_nil _).symm⟩
  | ask q next ih =>
      have hmove := Workspace.move_answer q v w
      rcases perform_ask q next v w with ⟨r, hstate, hearly⟩ | ⟨hstate, hearly⟩
      · rw [hstate] at hfresh ⊢
        -- the history after the first request is the beginning of the whole history
        obtain ⟨later, hlater⟩ := history_grows (next r) v (Workspace.answer q v w).state
        have hfresh₁ : (Workspace.answer q v w).state.session.books.history.Fresh := by
          rw [← hlater] at hfresh
          exact hfresh.of_append
        obtain ⟨hb₁, hfreed₁⟩ := hmove.sound hb hfresh₁
        obtain ⟨hb₂, hfreed₂⟩ := ih r _ hb₁ hfresh
        exact ⟨hb₂, by rw [hfreed₂, hfreed₁, hearly, List.append_assoc]⟩
      · rw [hstate] at hfresh ⊢
        obtain ⟨hb₁, hfreed₁⟩ := hmove.sound hb hfresh
        exact ⟨hb₁, by rw [hfreed₁, hearly]⟩

end Program

/-! ### The end of a session -/

namespace Session

variable {δ : Type} [Device δ]

theorem firstRefusal_cons_free (address : Address) (reply : Outcome Unit) (h : History) :
    History.firstRefusal (.free address reply :: h) = reply.failure?.or h.firstRefusal := by
  cases reply <;> rfl

/-- **A release frees every address once, in order, whatever the device replies**, and reports the
earliest refusal. -/
theorem releaseEach_watched
    (hfree : ∀ (a : Address) (v : Verbosity) (d : δ), (Device.free a v d).outcome.returns = true)
    (l : List Allocation) (v : Verbosity) (s : Session (Watched δ)) :
    ∃ r : History, (releaseEach l v s).state.device.history = s.device.history ++ r ∧
      r.IsRelease (l.map Allocation.address) ∧
      (releaseEach l v s).outcome = .ok ⟨l.map Allocation.address, r.firstRefusal⟩ := by
  induction l generalizing s with
  | nil => exact ⟨[], (List.append_nil _).symm, rfl, rfl⟩
  | cons a rest ih =>
      have hreturns : (Device.free a.address v s.device).outcome.returns = true :=
        hfree a.address v s.device.device
      obtain ⟨hstate, houtcome⟩ := Run.releaseEach_cons hreturns rest
      obtain ⟨r, hhistory, hrelease, hreport⟩ := ih (Run.afterFree a.address v s)
      refine ⟨.free a.address (Device.free a.address v s.device).outcome :: r, ?_, ?_, ?_⟩
      · rw [hstate, hhistory]
        exact List.append_assoc _ _ _
      · exact congrArg (List.cons _) hrelease
      · rw [houtcome, hreport, firstRefusal_cons_free]
        rfl

/-- The orderly end of a session on a watched device. -/
theorem teardown_watched
    (hfree : ∀ (a : Address) (v : Verbosity) (d : δ), (Device.free a v d).outcome.returns = true)
    (v : Verbosity) (s : Session (Watched δ)) :
    ∃ r : History, (teardown v s).state.device.history = s.device.history ++ r ∧
      r.IsRelease (s.tracked.map Allocation.address) ∧
      (teardown v s).outcome = .ok ⟨s.tracked.map Allocation.address, r.firstRefusal⟩ := by
  rw [Run.teardown_eq]
  exact releaseEach_watched hfree s.tracked v { s with tracked := [] }

end Session

/-! ### The whole run -/

namespace Run

variable {δ τ ε σ ρ : Type} [Device δ] {config : Config} {v : Verbosity} {d : δ} {t : τ}

/-- The setup of a watched device is seen as the setup of the device, and moves no memory. -/
theorem setup_watched (config : Config) (v : Verbosity) (w : Watched δ) :
    (setup config v w).outcome = (setup config v w.device).outcome ∧
      (setup config v w).state = ⟨(setup config v w.device).state, w.history⟩ := by
  have hlifts : Act.Lifts Watched.device (setup config : Act (Watched δ) Unit) (setup config) :=
    (Watched.isView.select _).bind fun _ => Watched.isView.reset
  refine ⟨(hlifts.outcome v w).symm, ?_⟩
  have hhistory : (setup config v w).state.history = w.history := by
    unfold setup
    rw [Act.bind_apply]
    split <;> rfl
  rw [hlifts.state v w, ← hhistory]

theorem opening_watched (config : Config) (v : Verbosity) (w : Watched δ) (t : τ) :
    (opening config v (w, t)).map Watched.device id = opening config v (w.device, t) := by
  simp only [opening, (setup_watched config v w).2]
  rfl

/-- Watching a device does not change what the programs of a job free. -/
theorem earlyFrees_watched (config : Config) (job : Job τ ε σ ρ) (env : ε) (v : Verbosity)
    (w : Watched δ) (t : τ) :
    earlyFrees config job env v (w, t) = earlyFrees config job env v (w.device, t) := by
  unfold earlyFrees
  rw [(setup_watched config v w).1, ← opening_watched, Program.earlyFrees_watched]

/-- What the history of a run consists of: the transfers of its programs and those of the release,
which frees what is held then. -/
theorem history_run
    (hfree : ∀ (a : Address) (v : Verbosity) (d : δ), (Device.free a v d).outcome.returns = true)
    (config : Config) (watch : Stopwatch) (job : Job τ ε σ ρ) (env : ε) (v : Verbosity) (d : δ)
    (t : τ) (hfresh : (run config watch job env v (Watched.start d, t)).state.1.history.Fresh) :
    ∃ h₁ h₂ : History,
      (run config watch job env v (Watched.start d, t)).state.1.history = h₁ ++ h₂ ∧
      h₁.Lawful ∧ h₁.freed = earlyFrees config job env v (d, t) ∧ h₂.IsRelease h₁.held ∧
      ∀ report, (run config watch job env v (Watched.start d, t)).outcome = .ok report →
        report.released = h₁.held.length := by
  have hearly : earlyFrees config job env v (Watched.start d, t) =
      earlyFrees config job env v (d, t) :=
    earlyFrees_watched config job env v (Watched.start d) t
  rw [← hearly]
  have hsetup : (setup config v (Watched.start d)).state.history = [] := by
    rw [(setup_watched config v _).2]
    rfl
  by_cases hready : (setup config v (Watched.start d)).outcome = .ok ()
  · have hstate := run_state_of_ready watch job env (s := (Watched.start d, t)) hready
    obtain ⟨r, hhistory, hrelease, hreport⟩ :=
      Session.teardown_watched hfree v (final config job env v (Watched.start d, t)).session
    rw [hstate, hhistory] at hfresh
    rw [hstate, hhistory]
    -- the books are in order at the start, and so after the programs of the job
    have hstart : (opening config v (Watched.start d, t)).session.books = ⟨[], []⟩ :=
      congrArg (Books.mk []) hsetup
    have hsound : (opening config v (Watched.start d, t)).session.books.Sound := by
      rw [hstart]
      exact ⟨rfl, History.lawful_nil⟩
    obtain ⟨hbooks, hfreed⟩ := (job.script env).sound_perform v _ hsound hfresh.of_append
    rw [hstart] at hfreed
    have howned : (final config job env v (Watched.start d, t)).session.tracked.map
        Allocation.address =
          (final config job env v (Watched.start d, t)).session.device.history.held :=
      hbooks.owned_eq
    rw [howned] at hrelease hreport
    refine ⟨_, r, rfl, hbooks.lawful, ?_, hrelease, fun report hrun => ?_⟩
    · rw [earlyFrees, hready]
      exact hfreed
    · obtain ⟨teardown, hteardown, hreleased⟩ := released_of_ready watch job env hready hrun
      rw [hreport] at hteardown
      cases hteardown
      exact hreleased
  · obtain ⟨hstate, hreleased⟩ :=
      run_of_not_ready watch job env (s := (Watched.start d, t)) hready
    refine ⟨[], [], by rw [hstate]; exact hsetup, History.lawful_nil, ?_, rfl, hreleased⟩
    unfold earlyFrees
    split
    · rename_i hok
      exact absurd hok hready
    · rfl

/-- **Every allocation is released exactly once**, on every device that gives out no address which
the session still owns and whose `free` does not panic, for every job, and however the run ends.

The run is watched, which changes nothing.  Its free calls are those that the programs asked for
with an address of the session, followed by one for each address that is held then, in the order of
allocation.  So the addresses freed are the addresses given out, only held addresses are freed and
none is left; an orderly end reports the earliest refusal; and a run that returns reports the number
of addresses that its programs did not free. -/
theorem run_frees_exactly_once
    (hfree : ∀ (a : Address) (v : Verbosity) (d : δ), (Device.free a v d).outcome.returns = true)
    (config : Config) (watch : Stopwatch) (job : Job τ ε σ ρ) (env : ε) (v : Verbosity) (d : δ)
    (t : τ) (hfresh : (run config watch job env v (Watched.start d, t)).state.1.history.Fresh) :
    let watched := run config watch job env v (Watched.start d, t)
    let h := watched.state.1.history
    let early := earlyFrees config job env v (d, t)
    watched.map (Prod.map Watched.device id) = run config watch job env v (d, t) ∧
      (∃ h₁ h₂ : History, h = h₁ ++ h₂ ∧ h₁.freed = early ∧ h₂.IsRelease h₁.held ∧
        h.freed = early ++ h₁.held ∧ h₁.held.Sublist h.issued) ∧
      h.freed.Perm h.issued ∧ h.Lawful ∧ h.held = [] ∧
      (∀ s : Session (Watched δ), ∃ r : History,
        (Session.teardown v s).state.device.history = s.device.history ++ r ∧
          r.IsRelease (s.tracked.map Allocation.address) ∧
          (Session.teardown v s).outcome =
            .ok ⟨s.tracked.map Allocation.address, r.firstRefusal⟩) ∧
      ∀ report, watched.outcome = .ok report →
        report.released = h.issued.length - early.length := by
  intro watched h early
  obtain ⟨h₁, h₂, hsplit, hlawful₁, hearly, hrelease, hreleased⟩ :=
    history_run hfree config watch job env v d t hfresh
  have hsettled := hrelease.settles hlawful₁ rfl
  rw [← hsplit] at hsettled
  obtain ⟨hlawful, hheld⟩ := hsettled
  have hperm : h.freed.Perm h.issued := by
    have := hlawful.perm
    rwa [hheld, List.append_nil] at this
  have hfreed : h.freed = early ++ h₁.held := by
    change History.freed watched.state.1.history = _
    rw [hsplit, History.freed_append, hearly, hrelease.freed]
  have horder : h₁.held.Sublist h.issued := by
    change List.Sublist _ (History.issued watched.state.1.history)
    rw [hsplit, History.issued_append]
    exact (History.held_sublist_issued h₁).trans (List.sublist_append_left _ _)
  refine ⟨run_lifts Watched.isView (job.view_self Watched.isView) config watch env v
      (Watched.start d, t),
    ⟨h₁, h₂, hsplit, hearly, hrelease, hfreed, horder⟩, hperm, hlawful, hheld,
    fun s => Session.teardown_watched hfree v s, fun report hrun => ?_⟩
  rw [hreleased report hrun, ← hperm.length_eq, hfreed, List.length_append]
  omega

/-- A job that frees its first allocation, tries to free an address that it does not own, and panics
with two allocations left. -/
def panickingJob : Job Unit Unit Unit Unit where
  prepare _ := do
    let first ← Program.allocate 16
    let _ ← Program.allocate 32
    let _ ← (Program.free first).attempt
    let _ ← (Program.free ⟨7⟩).attempt
  launch _ := do
    let _ ← Program.allocate 8
    .panic .untyped
  copyBack _ := pure []

theorem panicking_run_frees_exactly_once :
    let watched := run {} (fun _ => 0) panickingJob () .off (Watched.start Emulated.refusing, ())
    let h := watched.state.1.history
    (∀ (a : Address) (v : Verbosity) (d : Emulated),
        (Device.free a v d).outcome.returns = true) ∧
      h.Fresh ∧ watched.outcome = .panic .untyped ∧
      h.issued = [⟨0x7f0000000000⟩, ⟨0x7f0000000100⟩, ⟨0x7f0000000200⟩] ∧
      earlyFrees {} panickingJob () .off (Emulated.refusing, ()) = [⟨0x7f0000000000⟩] ∧
      h.freed.Perm h.issued := by
  intro watched h
  have hfree : ∀ (a : Address) (v : Verbosity) (d : Emulated),
      (Device.free a v d).outcome.returns = true := Emulated.free_returns
  have hissued : h.issued = [⟨0x7f0000000000⟩, ⟨0x7f0000000100⟩, ⟨0x7f0000000200⟩] := by
    decide +kernel
  have hfresh : h.Fresh := History.fresh_of_nodup (by rw [hissued]; decide)
  exact ⟨hfree, hfresh, rfl, hissued, by decide +kernel,
    (run_frees_exactly_once hfree {} (fun _ => 0) panickingJob () .off Emulated.refusing ()
      hfresh).2.2.1⟩

end Run

end Offload
