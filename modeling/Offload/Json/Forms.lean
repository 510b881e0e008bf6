/-
**The JSON forms of the library's types.**

Addresses are numbers, records are objects, stages, phases and calls are names.  A status is a name,
or an object that maps `DeviceApi` to the number of the driver.  Writing is canonical; reading also
takes the other spellings that `Offload.Json.fields?` and `Offload.Json.variant?` allow.

Main definitions: `toJson` and `ofJson?` in the namespaces of `Offload.Address`, `Offload.Extent`,
`Offload.Geometry`, `Offload.Duration`, `Offload.Timings`, `Offload.Phase`, `Offload.Stage`,
`Offload.DeviceCall` and `Offload.Status`, and `Offload.Report.toJson`.
-/

import Offload.Json.Reader
import Offload.Run

set_option autoImplicit false

namespace Offload

namespace Address

/-- An address as a number. -/
def toJson (a : Address) : Json :=
  .nat a.toNat

/-- Reads an address. -/
def ofJson? (j : Json) : Option Address :=
  (j.natBelow? UInt64.size).map Address.ofNat

end Address

namespace Extent

/-- An extent as an object. -/
def toJson (e : Extent) : Json :=
  .record [("x", .nat e.x.toNat), ("y", .nat e.y.toNat), ("z", .nat e.z.toNat)]

/-- Reads one dimension. -/
def sizeOfJson? (j : Json) : Option UInt32 :=
  (j.natBelow? UInt32.size).map UInt32.ofNat

/-- Reads an extent. -/
def ofJson? (j : Json) : Option Extent :=
  match j.fields? false ["x", "y", "z"] with
  | some [some x, some y, some z] => do
      let x ← sizeOfJson? x
      let y ← sizeOfJson? y
      let z ← sizeOfJson? z
      some ⟨x, y, z⟩
  | _ => none

end Extent

namespace Geometry

/-- A geometry as an object. -/
def toJson (g : Geometry) : Json :=
  .record [("grid", g.grid.toJson), ("block", g.block.toJson)]

/-- Reads a geometry. -/
def ofJson? (j : Json) : Option Geometry :=
  match j.fields? false ["grid", "block"] with
  | some [some grid, some block] => do
      let grid ← Extent.ofJson? grid
      let block ← Extent.ofJson? block
      some ⟨grid, block⟩
  | _ => none

end Geometry

namespace Duration

/-- A duration as an object. -/
def toJson (d : Duration) : Json :=
  .record [("secs", .nat d.secs.toNat), ("nanos", .nat d.nanos.toNat)]

/-- Reads a duration.  It has no other keys; nanoseconds beyond a second count as seconds. -/
def ofJson? (j : Json) : Option Duration :=
  match j.fields? true ["secs", "nanos"] with
  | some [some secs, some nanos] => do
      let secs ← secs.natBelow? UInt64.size
      let nanos ← nanos.natBelow? UInt32.size
      ofParts? secs nanos
  | _ => none

end Duration

namespace Timings

/-- Timings as an object. -/
def toJson (t : Timings) : Json :=
  .record (Phase.all.map fun p => (p.text, .option Duration.toJson (t.get p)))

/-- Reads one entry; one that is not there means the same as `null`. -/
def entryOfJson? : Option Json → Option (Option Duration)
  | none => some none
  | some j => j.option? Duration.ofJson?

/-- Reads timings. -/
def ofJson? (j : Json) : Option Timings :=
  match j.fields? false (Phase.all.map Phase.text) with
  | some [setup, prepareEnv, kernel, freeMemory] => do
      let setup ← entryOfJson? setup
      let prepareEnv ← entryOfJson? prepareEnv
      let kernel ← entryOfJson? kernel
      let freeMemory ← entryOfJson? freeMemory
      some ⟨setup, prepareEnv, kernel, freeMemory⟩
  | _ => none

end Timings

/-- A phase by its name. -/
def Phase.toJson (p : Phase) : Json :=
  .str p.name

/-- Reads a phase. -/
def Phase.ofJson? (j : Json) : Option Phase :=
  j.variant? Phase.all Phase.name

/-- A stage by its name. -/
def Stage.toJson (s : Stage) : Json :=
  .str s.name

/-- Reads a stage. -/
def Stage.ofJson? (j : Json) : Option Stage :=
  j.variant? Stage.all Stage.name

/-- A device call by its name. -/
def DeviceCall.toJson (c : DeviceCall) : Json :=
  .str c.name

/-- Reads a device call. -/
def DeviceCall.ofJson? (j : Json) : Option DeviceCall :=
  j.variant? DeviceCall.all DeviceCall.name

namespace Status

/-- The names of the statuses without a number. -/
def plainName : Status → String
  | success => "Success"
  | deviceUnavailable => "DeviceUnavailable"
  | deviceApi _ => "DeviceApi"

/-- A status by its name, with its number if it has one. -/
def toJson : Status → Json
  | deviceApi code => .record [("DeviceApi", .integer code.toInt)]
  | status => .str status.plainName

/-- Reads a status. -/
def ofJson? : Json → Option Status
  | .object [(.text "DeviceApi", code)] => code.int32?.map deviceApi
  | j => j.variant? [success, deviceUnavailable] plainName

end Status

/-- A report as an object. -/
def Report.toJson {ρ : Type} (element : ρ → Json) (r : Report ρ) : Json :=
  .record [("error", r.error.toJson), ("failure", .option .str r.failure),
    ("timings", r.timings.toJson), ("released_allocations", .nat r.released),
    ("output", .option (fun output => .array (output.map element)) r.output),
    ("final_state", r.finalStage.toJson)]

end Offload
