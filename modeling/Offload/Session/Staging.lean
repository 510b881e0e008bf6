/-
**Staging an environment.**

The environment of a kernel is a value of fixed size.  Arrays cannot lie inside it, so they are
uploaded first, each under a name, and the environment refers to them by address and length.

The list of what has been staged belongs to the host data of the program, so it is there however a
call ends.

Main definitions:

* `Offload.ArrayRef` — a reference to an array, as it lies in an environment;
* `Offload.Staging` — the arrays staged so far;
* `Offload.Staging.start`, `Offload.Staging.addArray`, `Offload.Staging.finish` — an empty list, one
  more array, and the environment itself;
* `Offload.StagedEnvironment.array?` — the reference with a given name.
-/

import Offload.Session.Program

set_option autoImplicit false

namespace Offload

/-- The address and the number of elements of an array. -/
structure ArrayRef where
  address : Address
  length : UInt64
deriving DecidableEq, Repr, Inhabited

instance : Pod ArrayRef where
  width := 16
  encode r := Pod.encode r.address.raw ++ Pod.encode r.length
  decode bytes := ⟨⟨Pod.decode (bytes.take 8)⟩, Pod.decode (bytes.drop 8)⟩
  length_encode r := by
    rw [List.length_append, Pod.length_encode, Pod.length_encode]
    rfl
  decode_encode r := by
    have h : (Pod.encode r.address.raw).length = 8 := Pod.length_encode r.address.raw
    rw [List.take_left' h, List.drop_left' h, Pod.decode_encode, Pod.decode_encode]

/-- The reference to a slice. -/
def Slice.toRef {α : Type} (s : Slice α) : ArrayRef :=
  ⟨s.address, UInt64.ofNat s.length⟩

/-- The arrays that have been staged, in order, by name. -/
structure Staging where
  arrays : List (String × ArrayRef) := []
deriving DecidableEq, Repr, Inhabited

/-- An environment on the device, with the arrays that it refers to. -/
structure StagedEnvironment (ε : Type) where
  env : Slice ε
  arrays : List (String × ArrayRef)

namespace Staging

variable {τ α ε : Type}

/-- One more array. -/
def push (s : Staging) (name : String) (array : ArrayRef) : Staging :=
  ⟨s.arrays ++ [(name, array)]⟩

/-- Whether an array of this name has been staged. -/
def contains (s : Staging) (name : String) : Bool :=
  s.arrays.any fun a => a.1 = name

/-- Begins with an empty list. -/
def start : Program (Staging × τ) Unit := do
  let data ← Program.load
  Program.save ({}, data.2)

/-- Uploads an array under a new name.  It joins the list last. -/
def addArray [Pod α] (name : String) (host : List α) : Program (Staging × τ) ArrayRef := do
  let before ← Program.load
  if before.1.contains name then .fail (.invalidInput (.arrayAddedTwice name))
  else do
    let slice ← Program.uploadSlice host
    Program.note .debug "environment array staged"
      [.text "name" name, .plain "ptr" slice.address.text, .number "len" host.length]
    let data ← Program.load
    Program.save (data.1.push name slice.toRef, data.2)
    pure slice.toRef

/-- Uploads the environment. -/
def finish [Pod ε] (env : ε) : Program (Staging × τ) (StagedEnvironment ε) := do
  let slice ← Program.upload env
  let data ← Program.load
  pure ⟨slice, data.1.arrays⟩

end Staging

/-- The reference to the array of a given name. -/
def StagedEnvironment.array? {ε : Type} (s : StagedEnvironment ε) (name : String) :
    Option ArrayRef :=
  s.arrays.lookup name

end Offload
