/-
**Phases and their durations.**

Four phases of a run are timed.  A duration has whole seconds in a 64-bit word and nanoseconds below
one second.  A phase that did not run has no duration.

Durations are added one after the other, seconds and nanoseconds apart, each in a machine word.  The
nanoseconds are carried into the seconds at the end, and before that only if they need the room.

Main definitions:

* `Offload.Duration`, `Offload.Duration.ofNanos?` — durations, and the one of a number of
  nanoseconds;
* `Offload.Duration.Tally`, `Offload.Duration.sum` — a running sum of durations, and its end;
* `Offload.Phase`, `Offload.Stopwatch` — the phases, and the time that each of them takes;
* `Offload.Timings` — one optional duration a phase, with `record`, `recorded` and `total`.
-/

import Offload.Outcome

set_option autoImplicit false

namespace Offload

/-! ### Durations -/

/-- A span of time. -/
structure Duration where
  secs : UInt64
  nanos : UInt32
  nanos_lt : nanos.toNat < 1000000000
deriving DecidableEq, Repr

namespace Duration

/-- The nanoseconds in a second. -/
def nanosPerSec : Nat := 1000000000

/-- No time at all. -/
def zero : Duration :=
  ⟨0, 0, by decide⟩

instance : Inhabited Duration := ⟨zero⟩

/-- The exact number of nanoseconds. -/
def toNanos (d : Duration) : Nat :=
  d.secs.toNat * nanosPerSec + d.nanos.toNat

theorem rest_lt (n : Nat) : n % nanosPerSec < nanosPerSec :=
  Nat.mod_lt n (by decide)

/-- What some nanoseconds leave beyond whole seconds fits in a 32-bit word. -/
theorem toNat_ofNat_rest (n : Nat) : (UInt32.ofNat (n % nanosPerSec)).toNat = n % nanosPerSec := by
  rw [UInt32.toNat_ofNat']
  exact Nat.mod_eq_of_lt (Nat.lt_trans (rest_lt n) (by decide))

theorem toNat_ofNat_rest_lt (n : Nat) : (UInt32.ofNat (n % nanosPerSec)).toNat < 1000000000 := by
  rw [toNat_ofNat_rest]
  exact rest_lt n

/-- The duration of a number of nanoseconds, if its seconds fit in a word. -/
def ofNanos? (n : Nat) : Option Duration :=
  if n / nanosPerSec < Word.bound then
    some ⟨UInt64.ofNat (n / nanosPerSec), UInt32.ofNat (n % nanosPerSec), toNat_ofNat_rest_lt n⟩
  else none

/-- The duration of a number of nanoseconds in a machine word. -/
def ofWord (n : UInt64) : Duration :=
  (ofNanos? n.toNat).getD zero

/-- The duration of some seconds and some nanoseconds, which may make up more seconds. -/
def ofParts? (secs nanos : Nat) : Option Duration :=
  ofNanos? (secs * nanosPerSec + nanos)

/-- The whole microseconds of a duration. -/
def toMicros (d : Duration) : Nat :=
  d.toNanos / 1000

/-- A running sum of durations.  Its nanoseconds may make up more seconds. -/
structure Tally where
  secs : Nat := 0
  nanos : Nat := 0

namespace Tally

/-- The duration of a running sum, with the nanoseconds carried into the seconds. -/
def settle (t : Tally) : Outcome Duration :=
  if t.secs + t.nanos / nanosPerSec < Word.bound then
    .ok ⟨UInt64.ofNat (t.secs + t.nanos / nanosPerSec), UInt32.ofNat (t.nanos % nanosPerSec),
      toNat_ofNat_rest_lt t.nanos⟩
  else .panic .durationOverflow

/-- Adds a duration.  The nanoseconds of the sum are carried only when they would leave their
word. -/
def add (t : Tally) (d : Duration) : Outcome Tally :=
  if t.secs + d.secs.toNat < Word.bound then
    if t.nanos + d.nanos.toNat < Word.bound then
      .ok ⟨t.secs + d.secs.toNat, t.nanos + d.nanos.toNat⟩
    else do
      let carried ← settle ⟨t.secs + d.secs.toNat, t.nanos⟩
      pure ⟨carried.secs.toNat, carried.nanos.toNat + d.nanos.toNat⟩
  else .panic .durationOverflow

end Tally

/-- The sum of some durations. -/
def sum (ds : List Duration) : Outcome Duration := do
  let tally ← ds.foldlM Tally.add {}
  tally.settle

end Duration

/-! ### Phases -/

/-- A part of a run that is timed. -/
inductive Phase where
  | setup
  | prepareEnv
  | kernel
  | freeMemory
deriving DecidableEq, Repr, Inhabited

namespace Phase

/-- All phases, in order. -/
def all : List Phase :=
  [setup, prepareEnv, kernel, freeMemory]

/-- The name of a phase in JSON. -/
def name : Phase → String
  | setup => "Setup"
  | prepareEnv => "PrepareEnv"
  | kernel => "Kernel"
  | freeMemory => "FreeMemory"

/-- The name of a phase in messages, and of its entry in the timings. -/
def text : Phase → String
  | setup => "setup"
  | prepareEnv => "prepare_env"
  | kernel => "kernel"
  | freeMemory => "free_memory"

end Phase

/-- A stopwatch: the nanoseconds that each phase takes. -/
abbrev Stopwatch : Type :=
  Phase → UInt64

/-! ### Timings -/

/-- The durations of the phases that ran. -/
structure Timings where
  setup : Option Duration := none
  prepareEnv : Option Duration := none
  kernel : Option Duration := none
  freeMemory : Option Duration := none
deriving DecidableEq, Repr, Inhabited

namespace Timings

/-- The duration of a phase. -/
def get (t : Timings) : Phase → Option Duration
  | .setup => t.setup
  | .prepareEnv => t.prepareEnv
  | .kernel => t.kernel
  | .freeMemory => t.freeMemory

/-- Sets the duration of a phase. -/
def record (t : Timings) (p : Phase) (d : Duration) : Timings :=
  match p with
  | .setup => { t with setup := some d }
  | .prepareEnv => { t with prepareEnv := some d }
  | .kernel => { t with kernel := some d }
  | .freeMemory => { t with freeMemory := some d }

/-- The phases that ran, in order, with their durations. -/
def recorded (t : Timings) : List (Phase × Duration) :=
  Phase.all.filterMap fun p => (t.get p).map fun d => (p, d)

/-- Whether all phases ran. -/
def isComplete (t : Timings) : Bool :=
  Phase.all.all fun p => (t.get p).isSome

/-- The time that all phases took together. -/
def total (t : Timings) : Outcome Duration :=
  Duration.sum (t.recorded.map Prod.snd)

@[simp] theorem get_record_self (t : Timings) (p : Phase) (d : Duration) :
    (t.record p d).get p = some d := by
  cases p <;> rfl

@[simp] theorem get_record_of_ne (t : Timings) {p q : Phase} (d : Duration) (h : q ≠ p) :
    (t.record p d).get q = t.get q := by
  cases p <;> cases q <;> first | rfl | exact absurd rfl h

end Timings

end Offload
