/-
**Devices.**

A device is whatever answers nine calls and knows its name.  Its state belongs to it alone; a
session reaches it only through the calls.  Launches are asynchronous: `launch` queues a kernel and
`synchronize` waits for everything queued.

A copy to the host fills a buffer of the caller, which is part of the state of that call.

The library drives no hardware itself.  Callers may ask for hardware devices all the same, and are
told that there are none.

Main definitions:

* `Offload.MemoryInfo` — how much memory a device has and how much of it is free;
* `Offload.Device` — the calls of a device with states of type `δ`;
* `Offload.Device.read` — a copy to the host into a fresh buffer;
* `Offload.Hardware.deviceCount`, `Offload.Hardware.isAvailable` — the hardware devices that can be
  driven.
-/

import Offload.Kernel

set_option autoImplicit false

namespace Offload

/-- The memory of a device in bytes. -/
structure MemoryInfo where
  free : Nat
  total : Nat
deriving DecidableEq, Repr

/-- A device with states of type `δ`. -/
class Device (δ : Type) where
  /-- The name of the device, for log records. -/
  name : δ → String
  /-- Makes the device with this number the active one. -/
  select : UInt32 → Act δ Unit
  /-- Establishes a clean context on the active device. -/
  reset : Act δ Unit
  /-- Allocates memory of a given size in bytes. -/
  allocate : Nat → Act δ Address
  /-- Releases an allocation. -/
  free : Address → Act δ Unit
  /-- Overwrites an allocation; the sizes have to agree. -/
  copyToDevice : Address → List UInt8 → Act δ Unit
  /-- Fills a host buffer with the contents of an allocation; the sizes have to agree. -/
  copyFromDevice : Address → Act (δ × List UInt8) Unit
  /-- Queues a kernel. -/
  launch : String → Geometry → List Arg → Act δ Unit
  /-- Waits until all queued kernels are done. -/
  synchronize : Act δ Unit
  /-- The memory of the device, if it can tell. -/
  memoryInfo : δ → Outcome (Option MemoryInfo) := fun _ => .ok none

/-- The contents of an allocation of a given size, copied into a buffer of zeros. -/
def Device.read {δ : Type} [Device δ] (address : Address) (size : Nat) : Act δ (List UInt8) :=
  Act.filling (List.replicate size 0) (Device.copyFromDevice address)

/-- The number of hardware devices that can be driven. -/
def Hardware.deviceCount : Nat := 0

/-- Whether a hardware device can be driven. -/
def Hardware.isAvailable : Bool :=
  decide (0 < Hardware.deviceCount)

end Offload
