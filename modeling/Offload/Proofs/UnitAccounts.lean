/-
**What a kernel unit leaves with its session.**

A kernel unit makes two allocations, one for a copy of its environment and one for its results, and
frees the first of them.  It can stop at every step on the way, because a call fails or because a
kernel panics, and what it has allocated by then stays with the session.  Only if the device refuses
the last call is there a buffer that is live and that the session does not own; the session has
passed it to the device once and does not do so again.

The device is watched while the unit runs, which changes nothing.  The account of a session then
says what it tracks and what was given out and freed; each step of a unit makes one entry in it or
none.

Main definitions:

* `Offload.Account`, `Offload.Session.account` — what a session has to account for;
* `Offload.KernelUnit.Leaves` — the accounts that a unit can leave.

Main results:

* `Offload.Session.account_allocate_of_refused`, `Offload.Session.account_free`, … — the entries
  that the operations of a session make;
* `Offload.KernelUnit.launch_leaves` — a unit leaves one of five accounts;
* `Offload.KernelUnit.invoke_state` — copying the results back changes nothing;
* `Offload.KernelUnit.every_buffer_accounted_for` — **every buffer that a unit obtains stays with
  the session or is freed once**.
-/

import Offload.Proofs.Tracking

set_option autoImplicit false

namespace Offload

/-! ### Accounts -/

/-- What a session on a watched device has to account for. -/
structure Account where
  /-- The allocations that the session owns. -/
  tracked : List Allocation
  /-- The number of allocations that it gave up before its end. -/
  earlyFrees : Nat
  /-- The addresses that the device gave out. -/
  issued : List Address
  /-- The addresses that the device was asked to free. -/
  freed : List Address

namespace Account

/-- One more allocation. -/
def grant (b : Account) (a : Allocation) : Account :=
  { b with tracked := b.tracked ++ [a], issued := b.issued ++ [a.address] }

/-- One allocation is given up. -/
def release (b : Account) (address : Address) : Account :=
  { b with
    tracked := b.tracked.eraseP fun a => a.address = address
    earlyFrees := b.earlyFrees + 1
    freed := b.freed ++ [address] }

/-- The allocations of a session have addresses of their own, none of which was live before. -/
structure New (old : Emulated) (b : Account) : Prop where
  nodup : (b.tracked.map Allocation.address).Nodup
  not_live : ∀ a ∈ b.tracked, a.address ∉ old.live

section Pair

variable {old : Emulated} {b : Account} {a c : Allocation}

theorem grant_grant (b : Account) (a c : Allocation) :
    (b.grant a).grant c =
      ⟨b.tracked ++ [a, c], b.earlyFrees, b.issued ++ [a.address, c.address], b.freed⟩ := by
  simp only [grant, List.append_assoc, List.singleton_append]

theorem New.pair_nodup (h : New old ((b.grant a).grant c)) : [a.address, c.address].Nodup := by
  have hnodup := h.nodup
  rw [grant_grant, List.map_append] at hnodup
  exact (List.nodup_append.1 hnodup).2.1

theorem New.first_not_mem (h : New old ((b.grant a).grant c)) :
    a.address ∉ (b.tracked ++ [c]).map Allocation.address := by
  have hpair := h.pair_nodup
  have hnodup := h.nodup
  rw [grant_grant, List.map_append] at hnodup
  intro hmem
  rw [List.map_append, List.mem_append] at hmem
  rcases hmem with hmem | hmem
  · exact (List.nodup_append.1 hnodup).2.2 _ hmem _ List.mem_cons_self rfl
  · exact (List.nodup_cons.1 hpair).1 hmem

/-- Of two new allocations the first one is given up. -/
theorem New.release_first (h : New old ((b.grant a).grant c)) :
    ((b.grant a).grant c).release a.address =
      ⟨b.tracked ++ [c], b.earlyFrees + 1, b.issued ++ [a.address, c.address],
        b.freed ++ [a.address]⟩ := by
  have hother : ∀ e ∈ b.tracked, ¬ (decide (e.address = a.address)) = true := by
    intro e he heq
    refine h.first_not_mem ?_
    rw [List.map_append, List.mem_append]
    exact .inl (of_decide_eq_true heq ▸ List.mem_map_of_mem he)
  simp only [release, grant_grant]
  rw [List.eraseP_append_right _ hother, List.eraseP_cons_of_pos (by simp)]

end Pair

end Account

namespace Session

variable {δ : Type}

/-- The account of a session on a watched device. -/
def account (s : Session (Watched δ)) : Account :=
  ⟨s.tracked, s.earlyFrees, s.device.history.issued, s.device.history.freed⟩

variable [Device δ] {s : Session (Watched δ)} {v : Verbosity}

theorem account_allocate_of_ok {size : Nat} {address : Address}
    (h : (allocate size v s).outcome = .ok address) :
    (allocate size v s).state.account = s.account.grant ⟨address, size⟩ := by
  obtain ⟨-, -, hreply, hstate⟩ := allocate_eq_ok h
  have hhistory : (Device.allocate size v s.device).state.history =
      s.device.history ++ [.allocate size (.ok address)] := by
    rw [← hreply]
    rfl
  rw [hstate]
  simp [account, Account.grant, hhistory, Transfer.issued?, Transfer.freed?]

/-- An allocation without a value makes no entry: the device has refused it, for whatever it grants
is recorded. -/
theorem account_allocate_of_refused {s : Session (Watched Emulated)}
    (hheld : (s.map Watched.device).Held) {size : Nat}
    (h : ∀ a, (allocate size v s).outcome ≠ .ok a) :
    (allocate size v s).state.account = s.account := by
  have hview := lifts_allocate (Watched.isView (δ := Emulated)) size
  rcases allocate_cases size v s with ⟨-, hstate⟩ | ⟨hreply, -, hstate⟩ |
    ⟨hsize, hfits, address, hreply⟩
  · rw [hstate]
  · have hhistory : (Device.allocate size v s.device).state.history =
        s.device.history ++ [.allocate size (Device.allocate size v s.device).outcome] := rfl
    rw [hstate]
    cases hx : (Device.allocate size v s.device).outcome with
    | ok a => exact absurd hx (hreply a)
    | error e =>
        rw [hx] at hhistory
        simp [account, hhistory, Transfer.issued?, Transfer.freed?]
    | panic p =>
        rw [hx] at hhistory
        simp [account, hhistory, Transfer.issued?, Transfer.freed?]
  · have hcheck : (ensureFits size v (s.map Watched.device)).outcome = .ok () :=
      ((lifts_ensureFits Watched.isView.memoryInfo Config.onlyFlag_id size).outcome v s).trans hfits
    have hgranted := (hheld.allocate hsize hcheck hreply).1
    exact absurd ((hview.outcome v s).symm.trans hgranted) (h address)

theorem account_free {address : Address} (h : s.owns address = true) :
    (free address v s).state.account = s.account.release address := by
  have hhistory : (Device.free address v s.device).state.history =
      s.device.history ++ [.free address (Device.free address v s.device).outcome] := rfl
  rw [(free_of_owned h v).2]
  simp [account, Account.release, hhistory, Transfer.issued?, Transfer.freed?]

theorem account_launch (kernel : String) (geometry : Geometry) (args : List Arg) :
    (launch kernel geometry args v s).state.account = s.account := by
  rcases launch_state kernel geometry args v s with hstate | hstate
  · rw [hstate]
  · rw [hstate]
    rfl

end Session

/-! ### Programs on a watched device -/

/-- The session of a workspace on a watched device agrees with that device, which was `old` when the
session began. -/
def Workspace.Sound {τ : Type} (old : Emulated) (w : Workspace (Watched Emulated) τ) : Prop :=
  ∃ made, (w.session.map Watched.device).Agrees old made

theorem Workspace.Sound.new {τ : Type} {old : Emulated} {w : Workspace (Watched Emulated) τ}
    (hold : old.Ordered) (h : w.Sound old) : w.session.account.New old := by
  obtain ⟨made, hagrees⟩ := h
  exact ⟨hagrees.held.nodup, fun a ha => hagrees.not_live hold ha⟩

namespace Program

variable {τ α : Type} {old : Emulated} {w : Workspace (Watched Emulated) τ} {v : Verbosity}

theorem sound_state (hold : old.Ordered) (h : w.Sound old) (p : Program τ α) (v : Verbosity) :
    (p.perform v w).state.Sound old := by
  obtain ⟨made, hagrees⟩ := h
  have hstate := (lifts_perform Watched.isView p).state v w
  obtain ⟨later, hlater⟩ := p.agrees_perform (w := w.map Watched.device id) hold v hagrees
  rw [hstate] at hlater
  exact ⟨_, hlater⟩

theorem account_note (level : Level) (message : String) (fields : List Field) :
    ((note level message fields).perform v w).state.session.account = w.session.account := by
  rw [note, perform_request]
  have hstate : (Workspace.answer (.note level message fields) v w).state = w := Act.note_state ..
  rw [hstate]

theorem account_launch (kernel : String) (geometry : Geometry) (args : List Arg) :
    ((launch kernel geometry args).perform v w).state.session.account = w.session.account := by
  rw [launch, perform_request]
  exact Session.account_launch kernel geometry args

theorem account_synchronize :
    (synchronize.perform v w).state.session.account = w.session.account := by
  rw [synchronize, perform_request]
  rfl

/-- The accounts that the copy of a host array of some size can leave: it is allocated before it is
written. -/
inductive Copies (size : Nat) (b : Account) : Outcome (Slice α) → Account → Prop
  | nothing {x : Outcome (Slice α)} (hx : ∀ s, x ≠ .ok s) : Copies size b x b
  | unwritten {x : Outcome (Slice α)} (hx : ∀ s, x ≠ .ok s) (address : Address) :
      Copies size b x (b.grant ⟨address, size⟩)
  | written (s : Slice α) : Copies size b (.ok s) (b.grant ⟨s.address, size⟩)

theorem Copies.of_ok {size : Nat} {b b' : Account} {s : Slice α}
    (h : Copies size b (.ok s) b') : b' = b.grant ⟨s.address, size⟩ := by
  cases h with
  | nothing hx => exact absurd rfl (hx s)
  | unwritten hx => exact absurd rfl (hx s)
  | written => rfl

variable [Pod α]

theorem account_allocSlice {length : Nat} {s : Slice α}
    (h : ((allocSlice α length).perform v w).outcome = .ok s) :
    s.length = length ∧ ((allocSlice α length).perform v w).state.session.account =
      w.session.account.grant s.allocation := by
  obtain ⟨rfl, haddress, hstate⟩ := allocSlice_eq_ok h
  rw [hstate]
  exact ⟨rfl, Session.account_allocate_of_ok haddress⟩

theorem account_allocSlice_of_refused (h : w.Sound old) {length : Nat}
    (hrefused : ∀ s, ((allocSlice α length).perform v w).outcome ≠ .ok s) :
    ((allocSlice α length).perform v w).state.session.account = w.session.account := by
  obtain ⟨made, hagrees⟩ := h
  unfold allocSlice at hrefused ⊢
  split at hrefused
  · rename_i hbound
    rw [if_pos hbound]
    rw [perform_bind] at hrefused ⊢
    rw [Act.bind_state fun _ _ => rfl, allocate, perform_request]
    refine Session.account_allocate_of_refused hagrees.held fun address haddress => ?_
    have hanswer : ((allocate (length * Pod.width α)).perform v w).outcome = .ok address := by
      rw [allocate, perform_request]
      exact haddress
    refine hrefused ⟨address, length⟩ ?_
    rw [Act.bind_of_ok hanswer]
    rfl
  · rename_i hbound
    rw [if_neg hbound]
    rfl

theorem account_write {s : Slice α} {host : List α} (h : host.length = s.length) :
    ((write s host).perform v w).state.session.account = w.session.account := by
  unfold write
  rw [if_pos h, store, perform_request]
  rfl

theorem copies_uploadSlice (h : w.Sound old) (host : List α) (v : Verbosity) :
    Copies (host.length * Pod.width α) w.session.account ((uploadSlice host).perform v w).outcome
      ((uploadSlice host).perform v w).state.session.account := by
  refine bind_ends (R := fun x w' => Copies _ w.session.account x w'.session.account) ?_ ?_
  · intro hrefused x hx
    rw [account_allocSlice_of_refused h hrefused]
    exact .nothing hx
  · intro s hs
    obtain ⟨hlength, haccount⟩ := account_allocSlice hs
    have hwrite := account_write (v := v) (w := ((allocSlice α host.length).perform v w).state)
      hlength.symm
    rw [haccount, Slice.allocation, hlength] at hwrite
    refine bind_ends (R := fun x w' => Copies _ w.session.account x w'.session.account) ?_ ?_
    · intro _ x hx
      rw [hwrite]
      exact .unwritten hx s.address
    · intro _ _
      have hdone : Copies (host.length * Pod.width α) w.session.account (.ok s)
          ((write s host).perform v
            ((allocSlice α host.length).perform v w).state).state.session.account := by
        rw [hwrite]
        exact .written s
      exact hdone

end Program

/-! ### Kernel units -/

namespace KernelUnit

variable {τ ε ρ : Type} [Pod ε] [Pod ρ]

/-- The accounts that a unit can leave in a session, on a device that was `old` when the session
began. -/
inductive Leaves (u : KernelUnit ε ρ) (old : Emulated) (b : Account) :
    Outcome (Slice ρ) → Account → Prop
  /-- It stops before anything is allocated. -/
  | nothing {x : Outcome (Slice ρ)} (hx : ∀ s, x ≠ .ok s) : Leaves u old b x b
  /-- It stops with the copy of its environment. -/
  | copied {x : Outcome (Slice ρ)} (hx : ∀ s, x ≠ .ok s) (copy : Address) :
      Leaves u old b x (b.grant ⟨copy, Pod.width ε⟩)
  /-- It stops with the copy of its environment and the room for its results. -/
  | placed {x : Outcome (Slice ρ)} (hx : ∀ s, x ≠ .ok s) (copy output : Address)
      (hnew : ((b.grant ⟨copy, Pod.width ε⟩).grant ⟨output, u.count * Pod.width ρ⟩).New old) :
      Leaves u old b x ((b.grant ⟨copy, Pod.width ε⟩).grant ⟨output, u.count * Pod.width ρ⟩)
  /-- The device refuses to free the copy, as it is told to. -/
  | refused {status : Int32} (hrefusal : old.faults.free = some status) (copy output : Address)
      (hnew : ((b.grant ⟨copy, Pod.width ε⟩).grant ⟨output, u.count * Pod.width ρ⟩).New old) :
      Leaves u old b (.error (.deviceCall .free status))
        (((b.grant ⟨copy, Pod.width ε⟩).grant ⟨output, u.count * Pod.width ρ⟩).release copy)
  /-- The results are left, and the copy is freed. -/
  | finished (hrefusal : old.faults.free = none) (copy : Address) (s : Slice ρ)
      (hlength : s.length = u.count)
      (hnew : ((b.grant ⟨copy, Pod.width ε⟩).grant ⟨s.address, u.count * Pod.width ρ⟩).New old) :
      Leaves u old b (.ok s)
        (((b.grant ⟨copy, Pod.width ε⟩).grant ⟨s.address, u.count * Pod.width ρ⟩).release copy)

section Steps

variable {old : Emulated} {w : Workspace (Watched Emulated) τ} {u : KernelUnit ε ρ} {v : Verbosity}

theorem owns_of_account {s : Session (Watched Emulated)} {b : Account} {a c : Allocation}
    (h : s.account = (b.grant a).grant c) : s.owns a.address = true := by
  have htracked : s.tracked = b.tracked ++ [a] ++ [c] := congrArg Account.tracked h
  rw [Session.owns_iff, htracked]
  simp

/-- The last step of a unit gives up the copy of its environment. -/
theorem free_leaves (hold : old.Ordered) (h : w.Sound old) {b : Account} {copy : Address}
    {s : Slice ρ}
    (hlength : s.length = u.count)
    (haccount : w.session.account =
      (b.grant ⟨copy, Pod.width ε⟩).grant ⟨s.address, u.count * Pod.width ρ⟩) :
    u.Leaves old b
      (Program.perform (Program.free copy >>= fun _ => pure s) v w).outcome
      (Program.perform (Program.free copy >>= fun _ => pure s) v w).state.session.account := by
  have hnew := h.new hold
  rw [haccount] at hnew
  obtain ⟨made, hagrees⟩ := h
  have howns := owns_of_account haccount
  obtain ⟨a, ha, haddress⟩ := List.mem_map.1 ((Session.owns_iff _ _).1 howns)
  have hlive : copy ∈ w.session.device.device.live := by
    rw [← Emulated.map_address_layout]
    exact List.mem_map.2 ⟨a, hagrees.held.sublist.subset ha, haddress⟩
  have hdevice := Emulated.free_of_live (hagrees.ready_of_mem ha) hlive v
  have houtcome : ((Program.free copy).perform v w).outcome =
      Emulated.unlessInjected .free old.faults.free (.ok ()) := by
    rw [Program.free, Program.perform_request, ← hagrees.faults]
    exact (Session.free_of_owned howns v).1.trans hdevice
  have hafter : ((Program.free copy).perform v w).state.session.account =
      ((b.grant ⟨copy, Pod.width ε⟩).grant ⟨s.address, u.count * Pod.width ρ⟩).release copy := by
    rw [Program.free, Program.perform_request, ← haccount]
    exact Session.account_free howns
  cases hfault : old.faults.free with
  | none =>
      rw [hfault] at houtcome
      rw [Program.bind_outcome_of_ok houtcome, Program.bind_state_of_ok houtcome]
      have hdone := Leaves.finished hfault copy s hlength hnew
      rw [← hafter] at hdone
      exact hdone
  | some status =>
      rw [hfault] at houtcome
      rw [Program.perform_bind, Act.bind_of_error houtcome, hafter]
      exact .refused hfault copy s.address hnew

/-- A step that makes no entry can be left out of the account. -/
theorem leaves_bind_of_idle (hold : old.Ordered) (h : w.Sound old) {α : Type} {p : Program τ α}
    {f : α → Program τ (Slice ρ)} {b b' : Account}
    (hidle : (p.perform v w).state.session.account = w.session.account)
    (hb : w.session.account = b')
    (hstop : ∀ x, (∀ s, x ≠ .ok s) → u.Leaves old b x b')
    (hgo : ∀ a w', w'.Sound old → w'.session.account = b' →
      u.Leaves old b ((f a).perform v w').outcome
        ((f a).perform v w').state.session.account) :
    u.Leaves old b (Program.perform (p >>= f) v w).outcome
      (Program.perform (p >>= f) v w).state.session.account := by
  refine Program.bind_ends (R := fun x w' => u.Leaves old b x w'.session.account) ?_ ?_
  · intro _ x hx
    rw [hidle, hb]
    exact hstop x hx
  · intro a _
    exact hgo a _ (Program.sound_state hold h p v) (hidle.trans hb)

/-- A unit that does not get its copy written stops with the copy or without it. -/
theorem leaves_of_unwritten {b b' : Account} {x : Outcome (Slice ε)} {y : Outcome (Slice ρ)}
    (h : Program.Copies (Pod.width ε) b x b') (hx : ∀ s, x ≠ .ok s)
    (hy : ∀ s, y ≠ .ok s) : u.Leaves old b y b' := by
  cases h with
  | nothing => exact .nothing hy
  | unwritten _ copy => exact .copied hy copy
  | written s => exact absurd rfl (hx s)

/-- **A unit leaves one of five accounts.** -/
theorem launch_leaves (hold : old.Ordered) (h : w.Sound old) (u : KernelUnit ε ρ) (env : ε)
    (v : Verbosity) :
    u.Leaves old w.session.account ((u.launch env).perform v w).outcome
      ((u.launch env).perform v w).state.session.account := by
  unfold launch
  split
  · exact .nothing fun s hs => nomatch hs
  have hupload := Program.copies_uploadSlice h [env] v
  rw [List.length_singleton, Nat.one_mul] at hupload
  have h₁ := Program.sound_state hold h (Program.upload env) v
  refine Program.bind_ends
    (R := fun x w' => u.Leaves old w.session.account x w'.session.account) ?_ ?_
  · intro hstopped x hx
    exact leaves_of_unwritten hupload hstopped hx
  intro input hinput
  have hcopy : ((Program.upload env).perform v w).outcome = .ok input := hinput
  rw [Program.upload] at hcopy
  rw [hcopy] at hupload
  have h₂ := Program.sound_state hold h₁ (Program.allocSlice ρ u.count) v
  refine Program.bind_ends
    (R := fun x w' => u.Leaves old w.session.account x w'.session.account) ?_ ?_
  · intro hrefused x hx
    rw [Program.account_allocSlice_of_refused h₁ hrefused]
    exact hupload.of_ok ▸ .copied hx input.address
  intro output houtput
  obtain ⟨hlength, hplaced⟩ := Program.account_allocSlice houtput
  rw [Slice.allocation, hlength] at hplaced
  have hb := hplaced.trans (congrArg (Account.grant · _) hupload.of_ok)
  have hnew := h₂.new hold
  rw [hb] at hnew
  have hstop : ∀ x, (∀ s, x ≠ .ok s) → u.Leaves old w.session.account x
      ((w.session.account.grant ⟨input.address, Pod.width ε⟩).grant
        ⟨output.address, u.count * Pod.width ρ⟩) := fun x hx => .placed hx _ _ hnew
  -- the three steps before the last one make no entries
  refine leaves_bind_of_idle hold h₂ (Program.account_note ..) hb hstop fun _ w₃ h₃ hb => ?_
  refine leaves_bind_of_idle hold h₃ (Program.account_launch ..) hb hstop fun _ w₄ h₄ hb => ?_
  refine leaves_bind_of_idle hold h₄ Program.account_synchronize hb hstop fun _ w₅ h₅ hb => ?_
  exact free_leaves hold h₅ hlength hb

end Steps

/-! ### Results copied back -/

/-- Copying the results back changes nothing, whether or not it succeeds. -/
theorem invoke_state (u : KernelUnit ε ρ) (env : ε) (v : Verbosity) (w : Workspace Emulated τ) :
    ((u.invoke env).perform v w).state = ((u.launch env).perform v w).state := by
  unfold invoke
  rw [Program.perform_bind]
  refine Act.bind_state (fun output w' => ?_) w
  unfold Program.download
  rw [Program.perform_bind, Act.bind_state fun _ _ => rfl, Program.fetch, Program.perform_request]
  exact congrArg (fun s => { w' with session := s }) (Session.fetch_state _ _ v w'.session)

/-- The results copied back are as many as the unit has. -/
theorem length_of_invoke {u : KernelUnit ε ρ} {env : ε} {v : Verbosity}
    {w : Workspace Emulated τ} {values : List ρ}
    (h : ((u.invoke env).perform v w).outcome = .ok values) :
    ∃ s, ((u.launch env).perform v w).outcome = .ok s ∧ values.length = s.length := by
  obtain ⟨s, hs, hdownload⟩ := Program.bind_eq_ok.1 h
  obtain ⟨bytes, -, hvalues⟩ := Program.bind_eq_ok.1 hdownload
  cases hvalues
  exact ⟨s, hs, Pod.length_decodeAll _ _⟩

/-! ### Every buffer is accounted for -/

section Leaves

variable {u : KernelUnit ε ρ} {old : Emulated} {b b' : Account} {x : Outcome (Slice ρ)}

theorem Leaves.of_ok {s : Slice ρ} (h : u.Leaves old b (.ok s) b') :
    s.length = u.count ∧ old.faults.free = none ∧ ∃ copy, copy ∉ old.live ∧
      copy ∉ b'.tracked.map Allocation.address ∧
      b' = ⟨b.tracked ++ [⟨s.address, u.count * Pod.width ρ⟩], b.earlyFrees + 1,
        b.issued ++ [copy, s.address], b.freed ++ [copy]⟩ := by
  cases h with
  | nothing hx => exact absurd rfl (hx s)
  | copied hx => exact absurd rfl (hx s)
  | placed hx => exact absurd rfl (hx s)
  | finished hrefusal copy _ hlength hnew =>
      have hrelease := hnew.release_first
      refine ⟨hlength, hrefusal, copy, hnew.not_live ⟨copy, Pod.width ε⟩ ?_, ?_, hrelease⟩
      · simp [Account.grant]
      · rw [hrelease]
        exact hnew.first_not_mem

theorem Leaves.of_stopped (h : u.Leaves old b x b') (hx : ∀ s, x ≠ .ok s) :
    b' = b ∨ ∃ copy,
      b' = ⟨b.tracked ++ [⟨copy, Pod.width ε⟩], b.earlyFrees, b.issued ++ [copy], b.freed⟩ ∨
        ∃ output,
          b' = ⟨b.tracked ++ [⟨copy, Pod.width ε⟩, ⟨output, u.count * Pod.width ρ⟩], b.earlyFrees,
              b.issued ++ [copy, output], b.freed⟩ ∨
            b' = ⟨b.tracked ++ [⟨output, u.count * Pod.width ρ⟩], b.earlyFrees + 1,
                b.issued ++ [copy, output], b.freed ++ [copy]⟩ ∧
              ∃ status, old.faults.free = some status ∧
                x = .error (.deviceCall .free status) := by
  cases h with
  | nothing => exact .inl rfl
  | copied _ copy => exact .inr ⟨copy, .inl rfl⟩
  | placed _ copy output => exact .inr ⟨copy, .inr ⟨output, .inl (Account.grant_grant ..)⟩⟩
  | @refused status hrefusal copy output hnew =>
      exact .inr ⟨copy, .inr ⟨output, .inr ⟨hnew.release_first, status, hrefusal, rfl⟩⟩⟩
  | finished _ _ s => exact absurd rfl (hx s)

/-- What is freed and what is kept are the buffers given out, each of them once. -/
theorem Leaves.balanced (h : u.Leaves old b x b') :
    ∃ kept issued freed, b'.tracked = b.tracked ++ kept ∧ b'.issued = b.issued ++ issued ∧
      b'.freed = b.freed ++ freed ∧ (freed ++ kept.map Allocation.address).Perm issued ∧
      issued.Nodup := by
  cases h with
  | nothing => exact ⟨[], [], [], by simp⟩
  | copied _ copy => exact ⟨[_], [copy], [], rfl, rfl, by simp [Account.grant], .refl _, by simp⟩
  | placed _ copy output hnew =>
      rw [Account.grant_grant]
      exact ⟨[_, _], [copy, output], [], rfl, rfl, by simp, .refl _, hnew.pair_nodup⟩
  | refused _ copy output hnew =>
      rw [hnew.release_first]
      exact ⟨[_], [copy, output], [copy], rfl, rfl, rfl, .refl _, hnew.pair_nodup⟩
  | finished _ copy s _ hnew =>
      rw [hnew.release_first]
      exact ⟨[_], [copy, s.address], [copy], rfl, rfl, rfl, .refl _, hnew.pair_nodup⟩

end Leaves

/-- **Every buffer that a unit obtains stays with the session or is freed once.**

Take a session on any device that operations can lead to, after any requests, and any unit.  The
device is watched while the unit runs, which changes nothing, and `b` is the account of the session
then: its list, its early frees, and what was given out and freed since the unit began.

If the unit returns, the session owns the results and nothing else besides what it owned, the copy
of the environment was freed early, and it is not live.  If it does not, then it was stopped before
anything was allocated, or with the copy, or with the copy and the room for the results, all of
which stay with the session; or the device refused to free the copy, because it is told to, and the
session has given the copy up.  In each case what was freed and what the session owns now in
addition are the buffers that were given out, each of them once.  Copying the results back leaves
the session as it is, and there are as many of them as the unit has. -/
theorem every_buffer_accounted_for {d : Emulated} (hd : d.Reachable) (config : Config) (t : τ)
    (v : Verbosity) (qs : List (Request τ)) (u : KernelUnit ε ρ) (env : ε) :
    let w : Workspace Emulated τ := Workspace.after v qs ⟨Session.start d config, t⟩
    let owned := w.session.tracked
    let early := w.session.earlyFrees
    let r := (u.launch env).perform v w
    let watched := (u.launch env).perform v (w.map Watched.start id)
    let h := watched.state.session.device.history
    let b : Account := ⟨r.state.session.tracked, r.state.session.earlyFrees, h.issued, h.freed⟩
    watched.map (Workspace.map Watched.device id) = r ∧
      (∀ s, r.outcome = .ok s → s.length = u.count ∧ ∃ copy,
        b = ⟨owned ++ [⟨s.address, u.count * Pod.width ρ⟩], early + 1, [copy, s.address], [copy]⟩ ∧
          copy ∉ r.state.session.device.live) ∧
      ((∀ s, r.outcome ≠ .ok s) →
        b = ⟨owned, early, [], []⟩ ∨ ∃ copy,
          b = ⟨owned ++ [⟨copy, Pod.width ε⟩], early, [copy], []⟩ ∨ ∃ output,
            b = ⟨owned ++ [⟨copy, Pod.width ε⟩, ⟨output, u.count * Pod.width ρ⟩], early,
                [copy, output], []⟩ ∨
              b = ⟨owned ++ [⟨output, u.count * Pod.width ρ⟩], early + 1, [copy, output], [copy]⟩ ∧
                ∃ status, d.faults.free = some status ∧
                  r.outcome = .error (.deviceCall .free status)) ∧
      (∃ kept, b.tracked = owned ++ kept ∧
        (b.freed ++ kept.map Allocation.address).Perm b.issued ∧ b.issued.Nodup) ∧
      ((u.invoke env).perform v w).state = r.state ∧
      ∀ values, ((u.invoke env).perform v w).outcome = .ok values → values.length = u.count := by
  intro w owned early r watched h b
  have hold := hd.ordered
  have hagrees : w.session.Agrees d _ :=
    Workspace.agrees_after hold v qs (Session.agrees_start hold config)
  have hview : watched.map (Workspace.map Watched.device id) = r :=
    Program.lifts_perform Watched.isView (u.launch env) v (w.map Watched.start id)
  have hsound : (w.map Watched.start id).Sound d := ⟨_, hagrees⟩
  have hleaves : u.Leaves d ⟨owned, early, [], []⟩ r.outcome b := by
    have hwatched := launch_leaves hold hsound u env v
    simp only [b, ← hview]
    exact hwatched
  refine ⟨hview, fun s hs => ?_, hleaves.of_stopped, ?_, invoke_state u env v w,
    fun values hvalues => ?_⟩
  · rw [hs] at hleaves
    obtain ⟨hlength, hfault, copy, hlive, htracked, hb⟩ := hleaves.of_ok
    refine ⟨hlength, copy, hb, ?_⟩
    -- the device frees what it is asked to free, so it holds what it held before and the list
    obtain ⟨later, hlater⟩ := (u.launch env).agrees_perform hold v hagrees
    obtain ⟨own, hlayout, -, -, hall⟩ := hlater.own
    rw [← Emulated.map_address_layout, hlayout, hall hfault, List.map_append,
      Emulated.map_address_layout, List.mem_append, not_or]
    exact ⟨hlive, htracked⟩
  · obtain ⟨kept, issued, freed, htracked, hissued, hfreed, hperm, hnodup⟩ := hleaves.balanced
    rw [List.nil_append] at hissued hfreed
    exact ⟨kept, htracked, by rwa [hissued, hfreed], by rwa [hissued]⟩
  · obtain ⟨s, hs, hlength⟩ := length_of_invoke hvalues
    have hs : r.outcome = .ok s := hs
    rw [hs] at hleaves
    rw [hlength, hleaves.of_ok.1]

/-- A unit of two results whose kernel does nothing, on a device that refuses every free: after an
allocation of 16 bytes, the copy is given up and the results stay. -/
theorem refused_copy_accounted_for :
    let d := Emulated.after .off
      [.call (.select 0), .call .reset, .register "idle" fun _ _ => pure ()] Emulated.refusing
    let w : Workspace Emulated Unit :=
      Workspace.after .off [.allocate 16] ⟨Session.start d {}, ()⟩
    let u : KernelUnit UInt32 UInt64 := ⟨"idle", ⟨⟨1, 1, 1⟩, ⟨1, 1, 1⟩⟩, 2⟩
    let r := (u.launch 7).perform .off w
    let h := ((u.launch 7).perform .off (w.map Watched.start id)).state.session.device.history
    d.Reachable ∧ r.outcome = .error (.deviceCall .free 700) ∧
      w.session.tracked = [⟨⟨0x7f0000000000⟩, 16⟩] ∧ r.state.session.earlyFrees = 1 ∧
      r.state.session.tracked = [⟨⟨0x7f0000000000⟩, 16⟩, ⟨⟨0x7f0000000200⟩, 16⟩] ∧
      (∃ kept, r.state.session.tracked = w.session.tracked ++ kept ∧
        (h.freed ++ kept.map Allocation.address).Perm h.issued ∧ h.issued.Nodup) ∧
      ((u.invoke 7).perform .off w).state = r.state := by
  intro d w u r h
  have hd : d.Reachable := (Emulated.Reachable.fresh 1 none { free := some 700 }).after .off _
  obtain ⟨-, -, -, hkept, hinvoke, -⟩ :=
    every_buffer_accounted_for hd {} () .off [.allocate 16] u 7
  refine ⟨hd, by decide +kernel, by decide +kernel, by decide +kernel, by decide +kernel, ?_,
    hinvoke⟩
  simpa only [r, h, w] using hkept

end KernelUnit

end Offload
