/-
**Sessions.**

A session owns every allocation that is made through it.  An address enters its list when the device
gives it out and leaves the list exactly once: by an early `free`, or when the session ends and
releases the rest in the order of allocation.

Main definitions:

* `Offload.Allocation`, `Offload.Session` — what a session owns, and its state;
* `Offload.Session.allocate`, `Offload.Session.free`, `Offload.Session.launch`, … — its operations;
* `Offload.Session.teardown` — the orderly end, with a report;
* `Offload.Session.abandon` — the release of what is left when a session ends in any other way.
-/

import Offload.Config
import Offload.Device

set_option autoImplicit false

namespace Offload

/-- An allocation that a session owns. -/
structure Allocation where
  address : Address
  size : Nat
deriving DecidableEq, Repr

/-- A device in use by a session. -/
structure Session (δ : Type) where
  device : δ
  config : Config
  /-- The allocations that the session owns, in the order in which they were made. -/
  tracked : List Allocation
  /-- The number of allocations released before the end. -/
  earlyFrees : Nat

/-- What the end of a session did. -/
structure Teardown where
  /-- The addresses that were released, in order, whether or not the device agreed. -/
  released : List Address
  /-- The first refusal of the device. -/
  firstError : Option Failure
deriving DecidableEq, Repr

namespace Session

variable {δ : Type}

/-- A session that owns nothing yet. -/
def start (device : δ) (config : Config) : Session δ :=
  ⟨device, config, [], 0⟩

/-- A device call made by a session. -/
def onDevice {α : Type} (call : Act δ α) : Act (Session δ) α :=
  Act.onPart Session.device (fun d s => { s with device := d }) call

/-- The number of bytes that a session owns. -/
def allocatedBytes (s : Session δ) : Outcome Nat :=
  Word.sum (s.tracked.map Allocation.size)

/-- Whether an address belongs to the session. -/
def owns (s : Session δ) (address : Address) : Bool :=
  s.tracked.any fun a => a.address = address

/-- Puts an allocation on the list. -/
def record (a : Allocation) : Act (Session δ) Unit := do
  let s ← Act.get
  if s.owns a.address then Act.panic (.recordedTwice a.address)
  else Act.modify fun s => { s with tracked := s.tracked ++ [a] }

/-- The level of an event that a debugging session records as important. -/
def eventLevel (s : Session δ) : Level :=
  if s.config.debug then .info else .debug

variable [Device δ]

/-- Fails if an allocation would not leave the configured headroom.  A device that does not report
its memory is not checked. -/
def ensureFits (size : Nat) : Act (Session δ) Unit := do
  let s ← Act.get
  if s.config.memCheck then
    let info ← Act.ofOutcome (Device.memoryInfo s.device)
    match info with
    | some info =>
        if info.free < Word.saturate (size + s.config.headroomBytes.toNat) then
          Act.fail (.outOfMemory size info.free s.config.headroomBytes.toNat)
        else pure ()
    | none => pure ()
  else pure ()

/-- Allocates memory and takes it into the session's list. -/
def allocate (size : Nat) : Act (Session δ) Address := do
  if size = 0 then Act.fail (.invalidInput .zeroSized)
  else do
    ensureFits size
    let address ← onDevice (Device.allocate size)
    record ⟨address, size⟩
    let s ← Act.get
    Act.note s.eventLevel "device allocation" do
      let liveBytes ← s.allocatedBytes
      pure [.plain "ptr" address.text, .number "size_bytes" size,
        .number "live" s.tracked.length, .number "live_bytes" liveBytes]
    pure address

/-- Overwrites an allocation. -/
def store (address : Address) (bytes : List UInt8) : Act (Session δ) Unit :=
  onDevice (Device.copyToDevice address bytes)

/-- The contents of an allocation.  The host needs room for them first. -/
def fetch (address : Address) (size : Nat) : Act (Session δ) (List UInt8) :=
  if size ≤ Word.largestBlock then onDevice (Device.read address size)
  else Act.panic .capacityOverflow

/-- Releases an allocation of the session before its end.  It leaves the list even if the device
refuses to release it. -/
def free (address : Address) : Act (Session δ) Unit := do
  let s ← Act.get
  match s.tracked.find? fun a => a.address = address with
  | none => Act.fail (.invalidHandle address)
  | some a => do
      Act.modify fun s => { s with
        tracked := s.tracked.eraseP fun a => a.address = address
        earlyFrees := s.earlyFrees + 1 }
      Act.note .debug "device free"
        (.ok [.plain "ptr" address.text, .number "size_bytes" a.size])
      onDevice (Device.free address)

/-- Queues a kernel.  A debugging session counts its threads for the log. -/
def launch (kernel : String) (geometry : Geometry) (args : List Arg) : Act (Session δ) Unit := do
  let s ← Act.get
  Act.note s.eventLevel "kernel launch" do
    let shape : List Field := [.text "kernel" kernel, .plain "geometry" geometry.text]
    if s.config.debug then
      let threads ← geometry.totalThreads
      pure (shape ++ [.number "threads" threads])
    else pure shape
  onDevice (Device.launch kernel geometry args)

/-- Waits for all queued kernels. -/
def synchronize : Act (Session δ) Unit :=
  onDevice Device.synchronize

/-! ### The end of a session -/

/-- Releases allocations in order.  A refusal is recorded and does not stop the rest. -/
def releaseEach : List Allocation → Act (Session δ) Teardown
  | [] => pure ⟨[], none⟩
  | a :: rest => do
      let result ← (onDevice (Device.free a.address)).attempt
      let failure ← match result with
        | .ok () => pure none
        | .error e => do
            Act.note .warn "device free failed"
              (.ok [.plain "ptr" a.address.text, .plain "error" e.message])
            pure (some e)
      let report ← releaseEach rest
      pure ⟨a.address :: report.released, failure.or report.firstError⟩

/-- Releases everything that the session still owns, in the order of allocation. -/
def teardown : Act (Session δ) Teardown := do
  let s ← Act.get
  Act.modify fun s => { s with tracked := [] }
  releaseEach s.tracked

/-- Releases what a session without an orderly end still owns. -/
def abandon : Act (Session δ) Unit := do
  let s ← Act.get
  if s.tracked.isEmpty then pure ()
  else do
    Act.note .warn "device session dropped without teardown; releasing allocations"
      (.ok [.number "remaining" s.tracked.length])
    let _ ← teardown
    pure ()

end Session

end Offload
