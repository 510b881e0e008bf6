/-
**The emulated device.**

A device in host memory.  It runs registered kernels one thread at a time, keeps a history of its
allocations, and can be told to fail any of its calls.  Launches are queued and run, in order, by
`synchronize`.

Main definitions:

* `Offload.FaultPlan` — which calls fail, and with which status;
* `Offload.Stats` — counters and the history of addresses;
* `Offload.Launch` — a queued kernel;
* `Offload.Emulated` — the state of the device;
* `Offload.Emulated.runThreads`, `Offload.Emulated.runLaunch` — one launch on a memory and on the
  device;
* the instance of `Offload.Device`.
-/

import Offload.Device
import Offload.Emulated.Memory

set_option autoImplicit false

namespace Offload

/-- The calls that fail, with the status that they report. -/
structure FaultPlan where
  /-- No device can be selected. -/
  select : Bool := false
  reset : Option Int32 := none
  /-- The allocation with this number, counted from zero, and all later ones. -/
  allocation : Option (Nat × Int32) := none
  copyToDevice : Option Int32 := none
  copyFromDevice : Option Int32 := none
  launch : Option Int32 := none
  synchronize : Option Int32 := none
  free : Option Int32 := none
deriving DecidableEq, Repr, Inhabited

/-- What the device has done so far. -/
structure Stats where
  allocations : Nat := 0
  frees : Nat := 0
  launches : Nat := 0
  synchronizations : Nat := 0
  /-- The addresses given out, in order. -/
  allocOrder : List Address := []
  /-- The addresses released, in order. -/
  freeOrder : List Address := []
deriving DecidableEq, Repr, Inhabited

/-- A queued launch. -/
structure Launch where
  kernel : String
  geometry : Geometry
  args : List Arg
deriving DecidableEq, Repr

/-- The state of an emulated device. -/
structure Emulated where
  /-- The number of devices that can be selected. -/
  deviceCount : UInt32 := 1
  selected : Option UInt32 := none
  contextReady : Bool := false
  /-- The memory that the device reports, if it reports any. -/
  capacity : Option UInt64 := none
  memory : Memory := {}
  /-- The kernels, by name. -/
  kernels : List (String × Kernel.Body) := []
  /-- The launches that wait for `synchronize`. -/
  pending : List Launch := []
  faults : FaultPlan := {}
  stats : Stats := {}

instance : Inhabited Emulated := ⟨{}⟩

namespace Emulated

/-- The status of a call without a context. -/
def noContext : Int32 := 201

/-! ### Setting up -/

/-- A machine with one device and no kernels. -/
def new : Emulated := {}

/-- A machine without devices. -/
def withoutDevices : Emulated := { deviceCount := 0 }

/-- Registers a kernel; one of the same name is replaced. -/
def register (d : Emulated) (name : String) (body : Kernel.Body) : Emulated :=
  { d with kernels := d.kernels.filter (fun k => k.1 ≠ name) ++ [(name, body)] }

/-- The body of a kernel. -/
def body? (d : Emulated) (name : String) : Option Kernel.Body :=
  d.kernels.lookup name

/-- The number of live allocations. -/
def liveAllocations (d : Emulated) : Nat :=
  d.memory.buffers.length

/-- A one-line description of the device. -/
def describe (d : Emulated) : String :=
  let selected := match d.selected with
    | some ordinal => s!"Some({ordinal})"
    | none => "None"
  let kernels := String.intercalate ", " (d.kernels.map fun k => Text.Quoted.encode k.1)
  String.join ["EmulatedDevice \x7b device_count: ", toString d.deviceCount, ", selected: ",
    selected, ", live_allocations: ", toString d.liveAllocations, ", kernels: [", kernels,
    "] \x7d"]

/-! ### Calls -/

/-- Fails unless a device is selected and has a context. -/
def requireContext (call : DeviceCall) : Act Emulated Unit := do
  let d ← Act.get
  if d.selected.isSome && d.contextReady then pure () else Act.fail (.deviceCall call noContext)

/-- Fails with an injected status, if there is one. -/
def injected (call : DeviceCall) : Option Int32 → Act Emulated Unit
  | some status => Act.fail (.deviceCall call status)
  | none => pure ()

/-- Selects a device. -/
def select (ordinal : UInt32) : Act Emulated Unit := do
  let d ← Act.get
  if d.faults.select || d.deviceCount ≤ ordinal then
    Act.fail (.deviceUnavailable ordinal s!"{d.deviceCount} emulated device(s) present")
  else Act.modify fun d => { d with selected := some ordinal }

/-- Makes a clean context; queued launches are forgotten. -/
def reset : Act Emulated Unit := do
  let d ← Act.get
  if d.selected.isNone then Act.fail (.deviceCall .reset noContext)
  else do
    injected .reset d.faults.reset
    Act.modify fun d => { d with pending := [], contextReady := true }

/-- The status of an allocation that is to fail. -/
def allocationFault (d : Emulated) : Option Int32 :=
  d.faults.allocation.bind fun fault =>
    if fault.1 ≤ d.stats.allocations then some fault.2 else none

/-- Allocates memory. -/
def allocate (size : Nat) : Act Emulated Address := do
  requireContext .allocate
  let d ← Act.get
  injected .allocate d.allocationFault
  let address ← Act.onPart Emulated.memory (fun m d => { d with memory := m })
    (Act.update fun m => m.allocate size)
  Act.modify fun d => { d with stats := { d.stats with
    allocations := d.stats.allocations + 1
    allocOrder := d.stats.allocOrder ++ [address] } }
  Act.note .debug "emulated allocate"
    (.ok [.plain "ptr" address.text, .number "size_bytes" size])
  pure address

/-- Releases memory. -/
def free (address : Address) : Act Emulated Unit := do
  requireContext .free
  let d ← Act.get
  injected .free d.faults.free
  match d.memory.release address with
  | none => Act.fail (.invalidHandle address)
  | some memory => do
      Act.modify fun d => { d with
        memory := memory
        stats := { d.stats with
          frees := d.stats.frees + 1
          freeOrder := d.stats.freeOrder ++ [address] } }
      Act.note .debug "emulated free" (.ok [.plain "ptr" address.text])

/-- Overwrites an allocation. -/
def copyToDevice (address : Address) (bytes : List UInt8) : Act Emulated Unit := do
  requireContext .copyToDevice
  let d ← Act.get
  injected .copyToDevice d.faults.copyToDevice
  let size ← Act.ofOutcome (d.memory.size address)
  if size = bytes.length then
    Act.modify fun d => { d with memory := d.memory.replace address bytes }
  else Act.fail (.sizeMismatch size bytes.length)

/-- Fills a host buffer with the contents of an allocation. -/
def copyFromDevice (address : Address) : Act (Emulated × List UInt8) Unit := do
  Act.onFirst (requireContext .copyFromDevice)
  let s ← Act.get
  Act.onFirst (injected .copyFromDevice s.1.faults.copyFromDevice)
  let bytes ← Act.ofOutcome (s.1.memory.bytes address)
  if bytes.size = s.2.length then Act.modify fun s => (s.1, bytes.toList)
  else Act.fail (.sizeMismatch bytes.size s.2.length)

/-- Queues a kernel. -/
def launch (kernel : String) (geometry : Geometry) (args : List Arg) : Act Emulated Unit := do
  requireContext .launch
  let d ← Act.get
  injected .launch d.faults.launch
  if (d.body? kernel).isNone then Act.fail (.missingKernel kernel)
  else
    Act.modify fun d => { d with
      pending := d.pending ++ [⟨kernel, geometry, args⟩]
      stats := { d.stats with launches := d.stats.launches + 1 } }

/-- Runs a body on the next `count` threads of a launch, from the thread with the number `first` on,
up to the first one that does not succeed. -/
def runThreads (body : Thread → Kernel Unit) (geometry : Geometry) :
    (count first : Nat) → Memory → Outcome Unit × Memory
  | 0, _, m => (.ok (), m)
  | count + 1, first, m =>
      match (body (geometry.thread first)).run m with
      | (.ok (), m) => runThreads body geometry count (first + 1) m
      | (.error e, m) => (.error e, m)
      | (.panic p, m) => (.panic p, m)

/-- Runs one launch. -/
def runLaunch (l : Launch) : Act Emulated Unit := do
  let d ← Act.get
  match d.body? l.kernel with
  | none => Act.fail (.missingKernel l.kernel)
  | some body => do
      Act.note .trace "emulated launch"
        (.ok [.plain "kernel" l.kernel, .plain "geometry" l.geometry.text])
      Act.onPart Emulated.memory (fun m d => { d with memory := m })
        (Act.update (runThreads (fun t => body t l.args) l.geometry l.geometry.count 0))

/-- Runs launches in order, up to the first one that does not succeed. -/
def runLaunches : List Launch → Act Emulated Unit
  | [] => pure ()
  | l :: rest => do
      runLaunch l
      runLaunches rest

/-- Runs everything that is queued.  The queue is empty afterwards, however this ends. -/
def synchronize : Act Emulated Unit := do
  requireContext .synchronize
  let d ← Act.get
  match d.faults.synchronize with
  | some status => do
      Act.modify fun d => { d with pending := [] }
      Act.fail (.deviceCall .synchronize status)
  | none => do
      Act.modify fun d => { d with
        pending := []
        stats := { d.stats with synchronizations := d.stats.synchronizations + 1 } }
      runLaunches d.pending

/-- The memory that the device reports. -/
def memoryInfo (d : Emulated) : Outcome (Option MemoryInfo) :=
  match d.capacity with
  | none => .ok none
  | some total => do
      let used ← d.memory.used
      pure (some ⟨total.toNat - used, total.toNat⟩)

instance : Device Emulated where
  name _ := "emulated"
  select := select
  reset := reset
  allocate := allocate
  free := free
  copyToDevice := copyToDevice
  copyFromDevice := copyFromDevice
  launch := launch
  synchronize := synchronize
  memoryInfo := memoryInfo

end Emulated

end Offload
