/-
**Kernels.**

A kernel body runs once for every thread of a launch.  It sees its place in the launch and the
arguments, and reaches device memory only through typed reads and writes of single elements and
through the size of an allocation.

Main definitions:

* `Offload.Arg` — kernel arguments;
* `Offload.Access` — the questions that a kernel may ask the memory;
* `Offload.Kernel`, `Offload.Kernel.Body` — computations on device memory, and kernel bodies;
* `Offload.Kernel.read`, `Offload.Kernel.write`, `Offload.Kernel.lengthOf` — typed access.
-/

import Offload.Dialogue
import Offload.Geometry
import Offload.Pod

set_option autoImplicit false

namespace Offload

/-- An argument of a kernel. -/
inductive Arg where
  | pointer (address : Address)
  | int32 (value : Int32)
  | word32 (value : UInt32)
  | word64 (value : UInt64)
  | float32 (value : Binary32)
deriving DecidableEq, Repr

/-- The address in an argument that is one. -/
def Arg.address? : Arg → Option Address
  | pointer address => some address
  | _ => none

/-- What a kernel may ask of device memory. -/
inductive Access where
  /-- The size in bytes of the allocation at an address. -/
  | size (address : Address)
  /-- The bytes of an element, all elements having the same width. -/
  | read (address : Address) (width index : Nat)
  /-- A new value for an element, as wide as its bytes are many. -/
  | write (address : Address) (index : Nat) (bytes : List UInt8)

/-- The type of the answer. -/
@[reducible] def Access.Answer : Access → Type
  | size _ => Option Nat
  | read _ _ _ => List UInt8
  | write _ _ _ => Unit

/-- A computation that reaches device memory only through `Access`. -/
abbrev Kernel (α : Type) : Type :=
  Dialogue Access Access.Answer α

namespace Kernel

/-- What a kernel does in one thread of a launch. -/
abbrev Body : Type :=
  Thread → List Arg → Kernel Unit

/-- The size in bytes of the allocation at an address, if there is one. -/
def sizeOf (address : Address) : Kernel (Option Nat) :=
  Dialogue.request (Access.size address)

/-- The number of elements that fit in a number of bytes; elements without width do not count. -/
def elementCount (width bytes : Nat) : Nat :=
  if width = 0 then 0 else bytes / width

/-- The number of elements of a type in the allocation at an address, if there is one. -/
def lengthOf (α : Type) [Pod α] (address : Address) : Kernel (Option Nat) := do
  let bytes ← sizeOf address
  pure (bytes.map (elementCount (Pod.width α)))

/-- Reads an element of an array. -/
def read {α : Type} [Pod α] (address : Address) (index : Nat) : Kernel α := do
  let bytes ← Dialogue.request (Access.read address (Pod.width α) index)
  pure (Pod.decode bytes)

/-- Writes an element of an array. -/
def write {α : Type} [Pod α] (address : Address) (index : Nat) (value : α) : Kernel Unit :=
  Dialogue.request (Access.write address index (Pod.encode value))

/-- The argument with a given number, which has to be an address. -/
def pointerArg (args : List Arg) (i : Nat) : Kernel Address :=
  match args[i]?.bind Arg.address? with
  | some address => pure address
  | none => .fail (.invalidInput (.notAPointer i))

end Kernel

end Offload
