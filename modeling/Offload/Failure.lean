/-
**What can go wrong.**

Two kinds of trouble are kept apart.  A *failure* is reported as a value: a device refused a call,
memory is short, an argument is wrong.  A *panic* stops the computation that caused it and unwinds
to whoever catches it: machine arithmetic overflowed, an internal check failed, a job gave up.

Main definitions:

* `Offload.DeviceCall` — the calls of a device that can report a status;
* `Offload.BadInput`, `Offload.Failure` — the causes of failures, each with one `message`;
* `Offload.Status` — the summary of a failure that a session reports, with its numeric form `raw`;
* `Offload.Panic` — the causes of panics, with the text they carry, if they carry one.
-/

import Offload.Address
import Offload.Stage

set_option autoImplicit false

namespace Offload

/-! ### Device calls -/

/-- A device call that can fail with a status number of the driver. -/
inductive DeviceCall where
  | select
  | reset
  | allocate
  | free
  | copyToDevice
  | copyFromDevice
  | launch
  | synchronize
  | loadModule
deriving DecidableEq, Repr, Inhabited

namespace DeviceCall

/-- All calls, in the order of a session. -/
def all : List DeviceCall :=
  [select, reset, allocate, free, copyToDevice, copyFromDevice, launch, synchronize, loadModule]

/-- The name of a call in JSON. -/
def name : DeviceCall → String
  | select => "Select"
  | reset => "Reset"
  | allocate => "Allocate"
  | free => "Free"
  | copyToDevice => "CopyToDevice"
  | copyFromDevice => "CopyFromDevice"
  | launch => "Launch"
  | synchronize => "Synchronize"
  | loadModule => "LoadModule"

/-- The words for a call in a message. -/
def phrase : DeviceCall → String
  | select => "select"
  | reset => "reset"
  | allocate => "allocate"
  | free => "free"
  | copyToDevice => "copy host->device"
  | copyFromDevice => "copy device->host"
  | launch => "launch"
  | synchronize => "synchronize"
  | loadModule => "load module"

end DeviceCall

/-! ### Failures -/

/-- The ways in which an argument can be refused. -/
inductive BadInput where
  /-- A session allocates at least one byte. -/
  | zeroSized
  /-- The byte size of an array does not fit in a machine word. -/
  | tooManyElements (count : Nat)
  /-- A kernel unit has to produce at least one result. -/
  | emptyResult (kernel : String)
  /-- The arrays of an environment have different names. -/
  | arrayAddedTwice (name : String)
  /-- A kernel needs an address as its parameter of this number. -/
  | notAPointer (parameter : Nat)
  /-- There is nothing to copy back before a launch. -/
  | nothingLaunched
  /-- A foreign caller passed no environment. -/
  | nullEnvironment
  /-- A cause that a job or a kernel gives in its own words. -/
  | other (text : String)
deriving DecidableEq, Repr

/-- The words for a refused argument. -/
def BadInput.message : BadInput → String
  | zeroSized => "zero-sized device allocation"
  | tooManyElements count => s!"{count} elements overflow"
  | emptyResult kernel => s!"kernel {kernel} has an empty result buffer"
  | arrayAddedTwice name => s!"environment array `{name}` added twice"
  | notAPointer parameter => s!"kernel parameter {parameter} is not a pointer"
  | nothingLaunched => "no kernel output to copy back"
  | nullEnvironment => "null environment pointer"
  | other text => text

/-- The cause of a failed call. -/
inductive Failure where
  /-- No usable device under this number. -/
  | deviceUnavailable (ordinal : UInt32) (reason : String)
  /-- The device refused a call with a status of its own. -/
  | deviceCall (call : DeviceCall) (status : Int32)
  /-- An allocation would not leave the configured headroom. -/
  | outOfMemory (required free headroom : Nat)
  /-- No kernel is registered under this name. -/
  | missingKernel (name : String)
  /-- The address is not the start of a live allocation. -/
  | invalidHandle (handle : Address)
  /-- Two byte counts that have to agree do not. -/
  | sizeMismatch (expected actual : Nat)
  /-- An argument was refused. -/
  | invalidInput (cause : BadInput)
  /-- A panic that was caught at the boundary to a foreign caller. -/
  | panicked (text : String)
deriving DecidableEq, Repr

/-- The summary of a failure that a session reports. -/
inductive Status where
  | success
  | deviceUnavailable
  | deviceApi (code : Int32)
deriving DecidableEq, Repr, Inhabited

namespace Failure

/-- The words for a failure. -/
def message : Failure → String
  | deviceUnavailable ordinal reason => s!"device {ordinal} unavailable: {reason}"
  | deviceCall call status => s!"device {call.phrase} failed with status {status.toInt}"
  | outOfMemory required free headroom =>
      s!"out of memory: required={required} free={free} headroom={headroom}"
  | missingKernel name => s!"missing kernel symbol: {name}"
  | invalidHandle handle => s!"invalid device handle: {handle.text}"
  | sizeMismatch expected actual => s!"size mismatch: expected {expected} bytes, got {actual}"
  | invalidInput cause => s!"invalid input: {cause.message}"
  | panicked text => s!"session panicked: {text}"

/-- The status that stands for a failure without a driver status of its own, or with one that
would be read as something else. -/
def unknownCode : Int32 := 999

/-- The status that a session reports for a failure: that of the driver where there is one, and
the driver's number for the same trouble otherwise. -/
def status : Failure → Status
  | deviceUnavailable _ _ => .deviceUnavailable
  | deviceCall _ status => .deviceApi status
  | outOfMemory _ _ _ => .deviceApi 2
  | missingKernel _ => .deviceApi 500
  | invalidHandle _ => .deviceApi 400
  | sizeMismatch _ _ => .deviceApi 1
  | invalidInput _ => .deviceApi 1
  | panicked _ => .deviceApi unknownCode

/-- Any failure to select a device, as a failure of the device with this number. -/
def asUnavailable (ordinal : UInt32) : Failure → Failure
  | deviceUnavailable o reason => deviceUnavailable o reason
  | other => deviceUnavailable ordinal other.message

end Failure

/-! ### Reported status -/

namespace Status

/-- Whether the session went through. -/
def isSuccess : Status → Bool
  | success => true
  | _ => false

/-- The numeric form for foreign callers.  Only success is zero and only an unavailable device is
minus one: a driver status that would be mistaken for one of them is reported as unknown. -/
def raw : Status → Int32
  | success => 0
  | deviceUnavailable => -1
  | deviceApi code => if code = 0 ∨ code = -1 then Failure.unknownCode else code

/-- The words for a status. -/
def text : Status → String
  | success => "success"
  | deviceUnavailable => "device unavailable"
  | deviceApi code => s!"device api failure ({code.toInt})"

end Status

/-- A failure is never reported as success. -/
theorem Failure.status_ne_success (e : Failure) : e.status ≠ .success := by
  cases e <;> simp [Failure.status]

/-! ### Panics -/

/-- Why a computation stopped without a result. -/
inductive Panic where
  /-- A sum does not fit in a machine word. -/
  | addOverflow
  /-- A product does not fit in a machine word. -/
  | mulOverflow
  /-- A buffer would take more than half of the address space. -/
  | capacityOverflow
  /-- A sum of durations has more seconds than a machine word holds. -/
  | durationOverflow
  /-- A device returned an address that the session still owns. -/
  | recordedTwice (handle : Address)
  /-- A session tried to move to a stage that cannot follow. -/
  | illegalTransition (source target : Stage)
  /-- A job or a kernel gave up with these words. -/
  | text (message : String)
  /-- A job gave up with a payload that is no text. -/
  | untyped
deriving DecidableEq, Repr

/-- The words that a panic carries. -/
def Panic.message? : Panic → Option String
  | addOverflow => some "attempt to add with overflow"
  | mulOverflow => some "attempt to multiply with overflow"
  | capacityOverflow => some "capacity overflow"
  | durationOverflow => some "overflow in iter::sum over durations"
  | recordedTwice handle => some s!"handle {handle.text} recorded twice"
  | illegalTransition source target =>
      some s!"illegal session transition {source.name} -> {target.name}"
  | text message => some message
  | untyped => none

/-- The words for a panic, also for one that carries none. -/
def Panic.message (p : Panic) : String :=
  p.message?.getD "non-string panic payload"

end Offload
