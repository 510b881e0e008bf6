/-
**Session settings.**

The settings of a session come from four environment variables.  Each variable decides one setting,
and a value that cannot be read leaves the default.

Main definitions:

* `Offload.Env` — environment variables;
* `Offload.Config` — the settings;
* `Offload.Config.ofEnv` — the settings that an environment asks for.
-/

import Offload.Outcome
import Offload.Text.Blank
import Offload.Text.Numeral

set_option autoImplicit false

namespace Offload

/-- Environment variables: the value of each one that is set. -/
abbrev Env : Type :=
  String → Option String

/-- The settings of a session. -/
structure Config where
  /-- The number of the device to use. -/
  deviceOrdinal : UInt32 := 0
  /-- Whether free memory is checked before each allocation. -/
  memCheck : Bool := true
  /-- The bytes that an allocation has to leave free. -/
  headroomBytes : UInt64 := 64 * 1024 * 1024
  /-- Whether allocations and launches are recorded as important. -/
  debug : Bool := false
deriving DecidableEq, Repr, Inhabited

namespace Config

/-- A numeral with blanks around it. -/
def natural? (limit : Nat) (value : String) : Option Nat :=
  (Text.Numeral.natural limit (Text.trim value)).toOption

/-- The device number in a setting. -/
def ordinal? (value : String) : Option UInt32 :=
  (natural? (UInt32.size - 1) value).map UInt32.ofNat

/-- The bytes in a setting that counts mebibytes. -/
def mebibytes? (value : String) : Option UInt64 :=
  (natural? Word.max value).map fun n => UInt64.ofNat (Word.saturate (n * (1024 * 1024)))

/-- Whether a setting turns something off.  Only ASCII letters have `false` in lower case. -/
def isOff (value : String) : Bool :=
  value = "0" || value.toList.map Char.toLower = "false".toList

/-- The settings that an environment asks for. -/
def ofEnv (env : Env) : Config where
  deviceOrdinal := ((env "HARNESS_DEVICE").bind ordinal?).getD 0
  memCheck := ((env "CUDA_MEM_CHECK").map fun value => !isOff value).getD true
  headroomBytes := ((env "HARNESS_MEM_HEADROOM_MB").bind mebibytes?).getD (64 * 1024 * 1024)
  debug := env "HARNESS_DEBUG" = some "1"

end Config

end Offload
