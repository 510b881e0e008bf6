/-
**The reference kernels.**

Two small kernels with their environments, kernel units and jobs.  `double_value` doubles one
number; `affine_index` fills an array with the values of an affine function of the index.

Main definitions:

* `Offload.DoubleEnv`, `Offload.AffineEnv` — the environments, laid out as the kernels expect them;
* `Offload.Reference.doubleValue`, `Offload.Reference.affineIndex` — the kernel bodies;
* `Offload.Reference.doubleUnit`, `Offload.Reference.affineUnit` — the kernel units;
* `Offload.Reference.doubleJob`, `Offload.Reference.affineJob` — the jobs;
* `Offload.Reference.device` — an emulated device with both kernels.
-/

import Offload.Emulated.Device
import Offload.Run
import Offload.Session.KernelUnit

set_option autoImplicit false

namespace Offload

/-- The environment of `double_value`. -/
structure DoubleEnv where
  value : Int32
deriving DecidableEq, Repr, Inhabited

instance : Pod DoubleEnv where
  width := 4
  encode e := Pod.encode e.value
  decode bytes := ⟨Pod.decode bytes⟩
  length_encode e := Pod.length_encode e.value
  decode_encode e := by rw [Pod.decode_encode]

/-- The environment of `affine_index`: the values `scale * i + offset` for `i < count`. -/
structure AffineEnv where
  scale : Binary32
  offset : Binary32
  count : UInt32
  /-- Fills up the last eight bytes; the kernel does not look at it. -/
  pad : UInt32 := 0
deriving DecidableEq, Repr, Inhabited

instance : Pod AffineEnv where
  width := 16
  encode e := Pod.encode e.scale ++ (Pod.encode e.offset ++ (Pod.encode e.count ++
    Pod.encode e.pad))
  decode bytes := ⟨Pod.decode (bytes.take 4), Pod.decode ((bytes.drop 4).take 4),
    Pod.decode (((bytes.drop 4).drop 4).take 4), Pod.decode (((bytes.drop 4).drop 4).drop 4)⟩
  length_encode e := by
    simp only [List.length_append, Pod.length_encode]
    rfl
  decode_encode e := by
    have h1 : (Pod.encode e.scale).length = 4 := Pod.length_encode e.scale
    have h2 : (Pod.encode e.offset).length = 4 := Pod.length_encode e.offset
    have h3 : (Pod.encode e.count).length = 4 := Pod.length_encode e.count
    rw [List.take_left' h1, List.drop_left' h1, List.take_left' h2, List.drop_left' h2,
      List.take_left' h3, List.drop_left' h3, Pod.decode_encode, Pod.decode_encode,
      Pod.decode_encode, Pod.decode_encode]

namespace Reference

/-! ### Kernels -/

/-- The name of the doubling kernel. -/
def doubleName : String := "double_value"

/-- The name of the affine kernel. -/
def affineName : String := "affine_index"

/-- The first thread doubles the value of the environment. -/
def doubleValue : Kernel.Body := fun thread args => do
  let x ← Dialogue.ofOutcome thread.globalX
  if x = 0 then
    let input ← Kernel.pointerArg args 0
    let env : DoubleEnv ← Kernel.read input 0
    let output ← Kernel.pointerArg args 1
    Kernel.write output 0 (env.value * 2)
  else pure ()

/-- Each thread with an index below `count` writes its element. -/
def affineIndex : Kernel.Body := fun thread args => do
  let input ← Kernel.pointerArg args 0
  let env : AffineEnv ← Kernel.read input 0
  let i ← Dialogue.ofOutcome thread.globalX
  if i < env.count.toNat then
    let output ← Kernel.pointerArg args 1
    Kernel.write output i ((env.scale.mul (Binary32.ofNat i)).add env.offset)
  else pure ()

/-- A device with both kernels. -/
def register (d : Emulated) : Emulated :=
  (d.register doubleName doubleValue).register affineName affineIndex

/-- A fresh device with both kernels. -/
def device : Emulated :=
  register Emulated.new

/-! ### Kernel units -/

/-- Doubles one number in one thread. -/
def doubleUnit : KernelUnit DoubleEnv Int32 :=
  ⟨doubleName, ⟨.line 1, .line 1⟩, 1⟩

/-- The number of threads in a block of the affine kernel. -/
def affineBlock : Nat := 256

/-- Fills an array, with as many blocks as it takes and at least one. -/
def affineUnit (count : UInt32) : KernelUnit AffineEnv Binary32 :=
  let blocks := max ((count.toNat + affineBlock - 1) / affineBlock) 1
  ⟨affineName, ⟨.line (UInt32.ofNat blocks), .line (UInt32.ofNat affineBlock)⟩, count.toNat⟩

/-! ### Jobs -/

/-- Copies back the results of a launch, if there was one. -/
def copyBack {τ ρ : Type} [Pod ρ] : Option (Slice ρ) → Program τ (List ρ)
  | some output => Program.download output
  | none => .fail (.invalidInput .nothingLaunched)

/-- A job that runs one kernel unit.  The unit brings the environment to the device itself. -/
def unitJob {τ ε ρ : Type} [Pod ε] [Pod ρ] (unit : ε → KernelUnit ε ρ) :
    Job τ ε (ε × Option (Slice ρ)) ρ where
  prepare env := pure (env, none)
  launch staged := do
    let output ← (unit staged.1).launch staged.1
    pure (staged.1, some output)
  copyBack staged := copyBack staged.2

/-- Doubles a number. -/
def doubleJob {τ : Type} : Job τ DoubleEnv (DoubleEnv × Option (Slice Int32)) Int32 :=
  unitJob fun _ => doubleUnit

/-- Fills an array with the values of an affine function. -/
def affineJob {τ : Type} : Job τ AffineEnv (AffineEnv × Option (Slice Binary32)) Binary32 :=
  unitJob fun env => affineUnit env.count

end Reference

end Offload
