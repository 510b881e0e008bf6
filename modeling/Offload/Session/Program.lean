/-
**Programs on a session.**

A program is the caller's part of a session.  It can use the session only through its operations,
may look at what the session shows, write log events, and keep data of its own on the host, of type
`τ`.  What it keeps there survives a panic.

Arrays on the device are used through typed slices.

Main definitions:

* `Offload.Request`, `Offload.Program` — what a program may ask for, and programs;
* `Offload.Workspace`, `Offload.Workspace.answer` — a session with host data, and its answers;
* `Offload.Program.perform` — a program as an action;
* `Offload.Workspace.scope` — a session opened around an action and closed however that ends;
* `Offload.Slice` — an array on the device;
* `Offload.Program.allocSlice`, `Offload.Program.uploadSlice`, `Offload.Program.write`,
  `Offload.Program.download` — typed memory operations.
-/

import Offload.Session

set_option autoImplicit false

namespace Offload

/-- What a session shows of itself. -/
structure SessionView where
  deviceName : String
  config : Config
  tracked : List Allocation
  earlyFrees : Nat
deriving DecidableEq, Repr

/-- What a program may ask for. -/
inductive Request (τ : Type) where
  | allocate (size : Nat)
  | store (address : Address) (bytes : List UInt8)
  | fetch (address : Address) (size : Nat)
  | free (address : Address)
  | launch (kernel : String) (geometry : Geometry) (args : List Arg)
  | synchronize
  /-- Looks at the session. -/
  | inspect
  /-- Writes a log event. -/
  | note (level : Level) (message : String) (fields : List Field)
  /-- Looks at the host data. -/
  | load
  /-- Replaces the host data. -/
  | save (data : τ)

/-- The type of the answer. -/
@[reducible] def Request.Answer {τ : Type} : Request τ → Type
  | allocate _ => Address
  | store _ _ => Unit
  | fetch _ _ => List UInt8
  | free _ => Unit
  | launch _ _ _ => Unit
  | synchronize => Unit
  | inspect => SessionView
  | note _ _ _ => Unit
  | load => τ
  | save _ => Unit

/-- A computation that reaches its session only through `Request`. -/
abbrev Program (τ α : Type) : Type :=
  Dialogue (Request τ) Request.Answer α

/-- A session together with the host data of a program. -/
structure Workspace (δ τ : Type) where
  session : Session δ
  host : τ

namespace Workspace

variable {δ τ α : Type}

/-- An action of the session. -/
def onSession (x : Act (Session δ) α) : Act (Workspace δ τ) α :=
  Act.onPart Workspace.session (fun s w => { w with session := s }) x

variable [Device δ]

/-- Answers a program. -/
def answer : (q : Request τ) → Act (Workspace δ τ) q.Answer
  | .allocate size => onSession (Session.allocate size)
  | .store address bytes => onSession (Session.store address bytes)
  | .fetch address size => onSession (Session.fetch address size)
  | .free address => onSession (Session.free address)
  | .launch kernel geometry args => onSession (Session.launch kernel geometry args)
  | .synchronize => onSession Session.synchronize
  | .inspect => do
      let w ← Act.get
      pure ⟨Device.name w.session.device, w.session.config, w.session.tracked,
        w.session.earlyFrees⟩
  | .note level message fields => Act.note level message (.ok fields)
  | .load => do
      let w ← Act.get
      pure w.host
  | .save data => Act.modify fun w => { w with host := data }

/-- Opens a session on a device, runs an action in it and closes it: whatever the session still owns
when the action ends, in any way, is released.  A panic that unwinds goes on after the release. -/
def scope (config : Config) (x : Act (Workspace δ τ) α) : Act (δ × τ) α := fun v s =>
  let r := x v ⟨Session.start s.1 config, s.2⟩
  let closing := Session.abandon v r.state.session
  let outcome := match r.outcome, closing.outcome with
    | .panic p, _ => .panic p
    | _, .panic p => .panic p
    | outcome, _ => outcome
  ⟨outcome, (closing.state.device, r.state.host), r.log ++ closing.log⟩

end Workspace

namespace Program

variable {τ α : Type}

/-- A program as an action on a session and its host data. -/
def perform {δ : Type} [Device δ] (p : Program τ α) : Act (Workspace δ τ) α :=
  Dialogue.run Workspace.answer p

/-- Allocates memory. -/
def allocate (size : Nat) : Program τ Address :=
  Dialogue.request (Request.allocate size)

/-- Overwrites an allocation. -/
def store (address : Address) (bytes : List UInt8) : Program τ Unit :=
  Dialogue.request (Request.store address bytes)

/-- The contents of an allocation. -/
def fetch (address : Address) (size : Nat) : Program τ (List UInt8) :=
  Dialogue.request (Request.fetch address size)

/-- Releases an allocation. -/
def free (address : Address) : Program τ Unit :=
  Dialogue.request (Request.free address)

/-- Queues a kernel. -/
def launch (kernel : String) (geometry : Geometry) (args : List Arg) : Program τ Unit :=
  Dialogue.request (Request.launch kernel geometry args)

/-- Waits for all queued kernels. -/
def synchronize : Program τ Unit :=
  Dialogue.request Request.synchronize

/-- What the session shows of itself. -/
def inspect : Program τ SessionView :=
  Dialogue.request Request.inspect

/-- Writes a log event. -/
def note (level : Level) (message : String) (fields : List Field) : Program τ Unit :=
  Dialogue.request (Request.note level message fields)

/-- The host data. -/
def load : Program τ τ :=
  Dialogue.request Request.load

/-- Replaces the host data. -/
def save (data : τ) : Program τ Unit :=
  Dialogue.request (Request.save data)

end Program

/-! ### Typed arrays on the device -/

/-- An array on the device, with elements of type `α`. -/
structure Slice (α : Type) where
  address : Address
  length : Nat
deriving DecidableEq, Repr

/-- The size of an array in bytes. -/
def Slice.sizeBytes {α : Type} [Pod α] (s : Slice α) : Outcome Nat :=
  Word.mul s.length (Pod.width α)

namespace Program

variable {τ α : Type} [Pod α]

/-- Allocates an array.  Its contents are not set. -/
def allocSlice (α : Type) [Pod α] (length : Nat) : Program τ (Slice α) := do
  if length * Pod.width α < Word.bound then
    let address ← allocate (length * Pod.width α)
    pure ⟨address, length⟩
  else .fail (.invalidInput (.tooManyElements length))

/-- Overwrites an array with host data of the same length. -/
def write (s : Slice α) (host : List α) : Program τ Unit := do
  if host.length = s.length then store s.address (Pod.encodeAll host)
  else
    let expected ← Dialogue.ofOutcome s.sizeBytes
    .fail (.sizeMismatch expected (host.length * Pod.width α))

/-- Allocates a copy of a host array. -/
def uploadSlice (host : List α) : Program τ (Slice α) := do
  let s ← allocSlice α host.length
  write s host
  pure s

/-- Allocates a copy of a host value. -/
def upload (value : α) : Program τ (Slice α) :=
  uploadSlice [value]

/-- A host copy of an array. -/
def download (s : Slice α) : Program τ (List α) := do
  let bytes ← fetch s.address (s.length * Pod.width α)
  pure (Pod.decodeAll s.length bytes)

end Program

end Offload
