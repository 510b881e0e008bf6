/-
**Recorded devices.**

A recorder stands in front of a device.  It keeps a list of all calls and passes them on, except
those that it is told to refuse.  It also keeps the addresses that the device gives out, so that
what was allocated can be compared with what was freed.  It does not report memory.

Main definitions:

* `Offload.Call` — a device call with its arguments;
* `Offload.Call.text` — a call in one line, after its `Offload.DeviceCall.label`;
* `Offload.Refusal` — a call that is to fail, by its kind and its number among the calls of that
  kind;
* `Offload.Recorder` — a recorded device, itself a device.
-/

import Offload.Device

set_option autoImplicit false

namespace Offload

/-- A device call with its arguments. -/
inductive Call where
  | select (ordinal : UInt32)
  | reset
  | allocate (size : Nat)
  | free (address : Address)
  | copyToDevice (address : Address) (bytes : List UInt8)
  | copyFromDevice (address : Address) (size : Nat)
  | launch (kernel : String) (geometry : Geometry) (args : List Arg)
  | synchronize
deriving DecidableEq, Repr

/-- The short name of a call. -/
def DeviceCall.label : DeviceCall → String
  | select => "select"
  | reset => "reset"
  | allocate => "allocate"
  | free => "free"
  | copyToDevice => "copy_to_device"
  | copyFromDevice => "copy_from_device"
  | launch => "launch"
  | synchronize => "synchronize"
  | loadModule => "load_module"

namespace Call

/-- Which call it is. -/
def kind : Call → DeviceCall
  | select _ => .select
  | reset => .reset
  | allocate _ => .allocate
  | free _ => .free
  | copyToDevice _ _ => .copyToDevice
  | copyFromDevice _ _ => .copyFromDevice
  | launch _ _ _ => .launch
  | synchronize => .synchronize

/-- A call in one line. -/
def text (c : Call) : String :=
  c.kind.label ++ match c with
    | select ordinal => s!" {ordinal}"
    | allocate size => s!" {size}"
    | free address => s!" {address.text}"
    | copyToDevice address bytes => s!" {Text.Hex.bytes bytes} {address.text}"
    | copyFromDevice address size => s!" {address.text} {size}"
    | launch kernel geometry args => s!" {kernel} {geometry.text} args={args.length}"
    | reset => ""
    | synchronize => ""

end Call

/-- A call that is to fail: the one with this number, counted from zero, among those of its kind. -/
structure Refusal where
  kind : DeviceCall
  number : Nat
  failure : Failure
deriving DecidableEq, Repr

/-- A device whose calls are recorded. -/
structure Recorder (δ : Type) where
  inner : δ
  name : String
  refusals : List Refusal := []
  /-- All calls, in order, refused ones included. -/
  calls : List Call := []
  /-- The addresses that allocations returned, in order. -/
  issued : List Address := []

namespace Recorder

variable {δ α : Type}

/-- The refusal that applies to the next call of a kind. -/
def refusal? (r : Recorder δ) (kind : DeviceCall) : Option Refusal :=
  r.refusals.find? fun rule =>
    rule.kind = kind && rule.number = (r.calls.filter fun c => c.kind = kind).length

/-- Records a call, and refuses it if it is to be refused. -/
def enter (call : Call) : Act (Recorder δ) Unit := do
  let r ← Act.get
  Act.modify fun r => { r with calls := r.calls ++ [call] }
  match r.refusal? call.kind with
  | some rule => Act.fail rule.failure
  | none => pure ()

/-- Records a call, then refuses it or passes it on. -/
def pass (call : Call) (x : Act δ α) : Act (Recorder δ) α := do
  enter call
  Act.onPart Recorder.inner (fun d r => { r with inner := d }) x

/-- The same for a call that fills a host buffer of a given size. -/
def passFilling (call : Nat → Call) (x : Act (δ × List UInt8) Unit) :
    Act (Recorder δ × List UInt8) Unit := do
  let s ← Act.get
  Act.onFirst (enter (call s.2.length))
  Act.onPart (fun s => (s.1.inner, s.2)) (fun t s => ({ s.1 with inner := t.1 }, t.2)) x

/-- Keeps an address that an allocation returned. -/
def issue (address : Address) : Act (Recorder δ) Address := do
  Act.modify fun r => { r with issued := r.issued ++ [address] }
  pure address

/-- The addresses that were to be freed, in order. -/
def freed (r : Recorder δ) : List Address :=
  r.calls.filterMap fun
    | .free address => some address
    | _ => none

instance [Device δ] : Device (Recorder δ) where
  name := Recorder.name
  select ordinal := pass (.select ordinal) (Device.select ordinal)
  reset := pass .reset Device.reset
  allocate size := do issue (← pass (.allocate size) (Device.allocate size))
  free address := pass (.free address) (Device.free address)
  copyToDevice address bytes :=
    pass (.copyToDevice address bytes) (Device.copyToDevice address bytes)
  copyFromDevice address := passFilling (.copyFromDevice address) (Device.copyFromDevice address)
  launch kernel geometry args :=
    pass (.launch kernel geometry args) (Device.launch kernel geometry args)
  synchronize := pass .synchronize Device.synchronize

end Recorder

end Offload
