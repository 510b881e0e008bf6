/-
**Installed toolkits.**

Where the compiler is installed: a directory that the environment names, a default, or the newest of
several installed versions.

Main definitions:

* `Offload.Toolchain.toolkitPath` — the directory of the toolkit;
* `Offload.Toolchain.version?` — the version in the name of an installed toolkit;
* `Offload.Toolchain.newestToolkit?` — the newest of the installed ones.
-/

import Offload.Config
import Offload.Text.Path

set_option autoImplicit false

namespace Offload.Toolchain

/-- The directory of the toolkit. -/
def toolkitPath (env : Env) : String :=
  ((env "CUDA_PATH").or (env "CUDA_HOME")).getD "/usr/local/cuda"

/-- The directory below which versions of the toolkit are installed side by side. -/
def toolkitRoot : String := "C:/Program Files/NVIDIA GPU Computing Toolkit/CUDA"

/-- A part of a version number. -/
def versionPart? (s : String) : Option Nat :=
  (Text.Numeral.natural (UInt32.size - 1) s).toOption

/-- The version in a name such as `v12.4`.  A minor version that is missing or malformed counts as
zero. -/
def version? (name : String) : Option (Nat × Nat) := do
  let rest ← Text.withoutPrefix? "v" name
  match (rest.toList.splitOnP fun c => c = '.').map String.ofList with
  | [] => none
  | major :: more =>
      let major ← versionPart? major
      some (major, (more.head?.bind versionPart?).getD 0)

/-- Whether one version is at most as new as another. -/
def versionLe (a b : Nat × Nat) : Bool :=
  a.1 < b.1 || (a.1 = b.1 && a.2 ≤ b.2)

/-- The newer of two toolkits, the second one if they are equally new. -/
def newer (best : Option ((Nat × Nat) × String)) (entry : (Nat × Nat) × String) :
    Option ((Nat × Nat) × String) :=
  match best with
  | none => some entry
  | some old => if versionLe old.1 entry.1 then some entry else some old

/-- The directory of the newest toolkit among the given names. -/
def newestToolkit? (names : List String) : Option String :=
  let entries := names.filterMap fun name => (version? name).map fun v => (v, name)
  (entries.foldl newer none).map fun best => toolkitRoot ++ "/" ++ best.2

/-- The host compiler of another vendor that the compiler could be told to use.  There is none on
the supported platforms. -/
def hostCompiler? : Option String := none

end Offload.Toolchain
