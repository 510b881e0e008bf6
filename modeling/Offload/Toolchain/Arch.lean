/-
**Target architectures.**

The architecture that kernels are compiled for, as the user spells it and as the compiler wants it.

Main definitions:

* `Offload.Toolchain.normalizeArch` — the compiler's name for a spelling;
* `Offload.Toolchain.selectArch` — the architecture that an environment asks for.
-/

import Offload.Config
import Offload.Text.Path

set_option autoImplicit false

namespace Offload.Toolchain

/-- The architecture when none is asked for. -/
def defaultArch : String := "compute_89"

/-- The architecture that every supported compiler knows. -/
def fallbackArch : String := "compute_80"

/-- The compiler's name for an architecture.  A name of the form `sm_89` or `compute_89` keeps its
number; of any other text with at least two digits the first two count; the rest stays as it is. -/
def normalizeArch (s : String) : String :=
  let t := Text.trim s
  match Text.withoutPrefix? "sm_" t with
  | some rest => "compute_" ++ rest
  | none =>
      if (Text.withoutPrefix? "compute_" t).isSome then t
      else
        match t.toList.filter Char.isDigit with
        | a :: b :: _ => "compute_" ++ String.ofList [a, b]
        | _ => t

/-- Whether a character separates the entries of a list of architectures: a comma or an ASCII
blank. -/
def separatesArchs (c : Char) : Bool :=
  c = ',' || c = ' ' || c = '\t' || c = '\n' || c = '\x0c' || c = '\r'

/-- The first entry of a list of architectures that names one. -/
def firstArch? (list : String) : Option String :=
  (((list.toList.splitOnP separatesArchs).map String.ofList).map normalizeArch).find? fun arch =>
    arch ≠ ""

/-- The architecture that an environment asks for.  A list hides a single entry, even if it names
none. -/
def requestedArch? (env : Env) : Option String :=
  match env "CUDA_ARCHS" with
  | some list => firstArch? list
  | none => (env "CUDA_ARCH").map normalizeArch

/-- The architecture to compile for. -/
def selectArch (env : Env) : String :=
  ((requestedArch? env).filter fun arch => arch ≠ "").getD defaultArch

end Offload.Toolchain
