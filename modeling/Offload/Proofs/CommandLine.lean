/-
**What the command prints.**

The command reads one number from its arguments and the settings of a session from its environment,
runs one doubling session on a device with the reference kernels, and prints the report.  How it
exits and what it prints on standard output only depend on the number and on which device is asked
for.  There is one device, the first; on it the session cannot fail, whatever else the environment
asks for, and any other one is not there.  What is printed is told by reading it again.

Main definitions:

* `Offload.Command.Asked` — the number that the arguments ask to double;
* `Offload.Command.doubledRecord`, `Offload.Command.unavailableRecord`,
  `Offload.Command.printed` — what is printed.

Main results:

* `Offload.Command.value_eq_ok_iff` — which number the command doubles;
* `Offload.Reference.run_on_first`, `Offload.Reference.run_on_other` — the whole report of a
  doubling run on a new device;
* `Offload.Command.exit_and_output` — **how the command exits and what it prints**.
-/

import Offload.Command
import Offload.Proofs.Isolation
import Offload.Proofs.Json.Text
import Offload.Proofs.Numerals

set_option autoImplicit false

namespace Offload

/-! ### Doubling on a new device -/

namespace Reference

section NewDevice

variable {τ : Type} {config : Config} (watch : Stopwatch) (value : Int32) (v : Verbosity) (t : τ)

/-- A doubling run on the first device succeeds, whatever the other settings are. -/
theorem run_on_first (hordinal : config.deviceOrdinal = 0) :
    (run config watch doubleJob ⟨value⟩ v (device, t)).outcome =
      .ok (Run.complete watch [value * 2] 1) := by
  have hselect : (device.faults.select || device.deviceCount ≤ config.deviceOrdinal) = false := by
    rw [hordinal]
    rfl
  have hsetup : (Run.setup config v device).outcome = .ok () := by
    rw [Run.setup_of_able hselect rfl v]
  have hserves := Run.serves_opening hselect rfl v atRest_device.ordered rfl rfl t
  obtain ⟨w, ⟨hscript, hleft⟩, hlength⟩ := double_yields hserves (by decide) value v
  have hreleased :
      (Run.final config doubleJob ⟨value⟩ v (device, t)).session.tracked.length = 1 := by
    unfold Run.final
    rw [hleft, hlength]
  rw [Run.run_eq_complete atRest_device.ordered rfl hsetup doubleJob ⟨value⟩ t hscript watch,
    hreleased]

/-- A doubling run on any other device finds none. -/
theorem run_on_other (hordinal : config.deviceOrdinal ≠ 0) :
    (run config watch doubleJob ⟨value⟩ v (device, t)).outcome =
      .ok (Run.refused
        (.deviceUnavailable config.deviceOrdinal "1 emulated device(s) present")) := by
  have hselect : (device.faults.select || device.deviceCount ≤ config.deviceOrdinal) = true := by
    have hpos : (1 : UInt32) ≤ config.deviceOrdinal := by
      rw [UInt32.le_iff_toNat_le]
      exact Nat.pos_of_ne_zero fun h => hordinal (UInt32.toNat_inj.1 h)
    exact decide_eq_true hpos
  have hcall := congrArg Step.outcome (Emulated.select_of_absent hselect v)
  exact (Run.run_of_unselected (s := (device, t)) watch doubleJob ⟨value⟩ hcall).1

end NewDevice

end Reference

/-- A number of nanoseconds is written as seconds and the nanoseconds that are left. -/
theorem Duration.toJson_ofWord (n : UInt64) :
    (ofWord n).toJson =
      .record [("secs", .nat (n.toNat / 1000000000)), ("nanos", .nat (n.toNat % 1000000000))] := by
  have hsum := toNanos_ofWord n
  have hnanos := (ofWord n).nanos_lt
  unfold toNanos nanosPerSec at hsum
  have hsecs : (ofWord n).secs.toNat = n.toNat / 1000000000 := by omega
  have hrest : (ofWord n).nanos.toNat = n.toNat % 1000000000 := by omega
  unfold toJson
  rw [hsecs, hrest]

namespace Command

/-! ### The number to double -/

/-- The number that the arguments ask to double: 42 if there are none, and otherwise what the first
one spells. -/
inductive Asked : List String → Int32 → Prop
  | default : Asked [] 42
  | first {arg : String} {rest : List String} {v : Int32}
      (h : Text.Numeral.Spells arg.toList v.toInt) : Asked (arg :: rest) v

theorem asked_cons_iff {arg : String} {rest : List String} {v : Int32} :
    Asked (arg :: rest) v ↔ Text.Numeral.Spells arg.toList v.toInt := by
  constructor
  · rintro ⟨⟩
    assumption
  · exact .first

/-- **The command doubles the number that its arguments ask for.** -/
theorem value_eq_ok_iff {args : List String} {v : Int32} : value args = .ok v ↔ Asked args v := by
  cases args with
  | nil =>
      constructor
      · rintro ⟨⟩
        exact .default
      · rintro ⟨⟩
        rfl
  | cons arg rest => exact Text.Numeral.int32_eq_ok_iff.trans asked_cons_iff.symm

/-- The arguments ask for no number iff the first one spells none of 32 bits. -/
theorem not_asked_iff {args : List String} :
    (∀ v, ¬ Asked args v) ↔
      ∃ arg rest, args = arg :: rest ∧ ∀ v : Int32, ¬ Text.Numeral.Spells arg.toList v.toInt := by
  cases args with
  | nil =>
      constructor
      · intro h
        exact absurd .default (h 42)
      · rintro ⟨arg, rest, ⟨⟩, -⟩
  | cons arg rest =>
      simp only [asked_cons_iff]
      constructor
      · intro h
        exact ⟨arg, rest, rfl, h⟩
      · rintro ⟨_, _, ⟨⟩, h⟩
        exact h

/-! ### What is printed -/

/-- A time taken, in seconds and nanoseconds. -/
def takenRecord (nanos : UInt64) : Json :=
  .record [("secs", .nat (nanos.toNat / 1000000000)), ("nanos", .nat (nanos.toNat % 1000000000))]

/-- What is printed when a number was doubled. -/
def doubledRecord (watch : Stopwatch) (value : Int32) : Json :=
  .record [("error", .str "Success"), ("failure", .null),
    ("timings", .record [("setup", takenRecord (watch .setup)),
      ("prepare_env", takenRecord (watch .prepareEnv)), ("kernel", takenRecord (watch .kernel)),
      ("free_memory", takenRecord (watch .freeMemory))]),
    ("released_allocations", .nat 1),
    ("output", .array [.integer ((2 * value.toInt).bmod 4294967296)]),
    ("final_state", .str "Done")]

/-- What is printed when there is no device with this number. -/
def unavailableRecord (ordinal : UInt32) : Json :=
  .record [("error", .str "DeviceUnavailable"),
    ("failure", .str s!"device {ordinal} unavailable: 1 emulated device(s) present"),
    ("timings", .record [("setup", .null), ("prepare_env", .null), ("kernel", .null),
      ("free_memory", .null)]),
    ("released_allocations", .nat 0), ("output", .null), ("final_state", .str "Done")]

theorem toJson_complete (watch : Stopwatch) (value : Int32) :
    (Run.complete watch [value * 2] 1).toJson (fun n => .integer n.toInt) =
      doubledRecord watch value := by
  have hdouble : (value * 2).toInt = (2 * value.toInt).bmod 4294967296 := by
    rw [Int32.toInt_mul, Int.mul_comm]
    rfl
  unfold doubledRecord takenRecord
  rw [← Duration.toJson_ofWord, ← Duration.toJson_ofWord, ← Duration.toJson_ofWord,
    ← Duration.toJson_ofWord, ← hdouble]
  rfl

theorem toJson_refused (ordinal : UInt32) :
    (Run.refused (.deviceUnavailable ordinal "1 emulated device(s) present") :
        Report Int32).toJson (fun n => .integer n.toInt) =
      unavailableRecord ordinal := by
  have htext : (Failure.deviceUnavailable ordinal "1 emulated device(s) present").message =
      s!"device {ordinal} unavailable: 1 emulated device(s) present" :=
    @String.append_assoc _ " unavailable: " _
  unfold unavailableRecord
  rw [← htext]
  rfl

/-! ### The command -/

section Run

variable (watch : Stopwatch) (filter : String → Option Verbosity) {args : List String} (env : Env)
  {value : Int32}

/-- The session of the command reports what a doubling run reports. -/
theorem session_outcome (value : Int32) (v : Verbosity) :
    (session watch env value v (Reference.device, ())).outcome =
      (Offload.run (Config.ofEnv env) watch Reference.doubleJob ⟨value⟩ v
        (Reference.device, ())).outcome := by
  unfold session
  rw [Act.bind_of_ok rfl, Act.bind_of_ok rfl]
  rfl

theorem run_of_not_asked (h : ∀ v, ¬ Asked args v) :
    (run watch filter args env).exit = 2 ∧ (run watch filter args env).stdout = "" := by
  unfold run
  split
  · exact ⟨rfl, rfl⟩
  · rename_i v hvalue
    exact absurd (value_eq_ok_iff.1 hvalue) (h v)

/-- The command prints the report of its session, and exits with whether that went through. -/
theorem run_of_report (hasked : Asked args value) {report : Report Int32}
    (hreport : (session watch env value (verbosity filter env) (Reference.device, ())).outcome =
      .ok report) :
    (run watch filter args env).exit = (if report.isSuccess then 0 else 1) ∧
      (run watch filter args env).stdout =
        (report.toJson fun n => .integer n.toInt).pretty ++ "\n" := by
  unfold run
  rw [value_eq_ok_iff.2 hasked]
  dsimp only
  rw [hreport]
  exact ⟨rfl, rfl⟩

/-- What is printed for a number and a device. -/
def printed (watch : Stopwatch) (value : Int32) (ordinal : UInt32) : Json :=
  if ordinal = 0 then doubledRecord watch value else unavailableRecord ordinal

/-- **The command sees nothing of its environment but the number of the device.** -/
theorem run_of_asked (hasked : Asked args value) :
    (run watch filter args env).exit = (if (Config.ofEnv env).deviceOrdinal = 0 then 0 else 1) ∧
      (run watch filter args env).stdout =
        (printed watch value (Config.ofEnv env).deviceOrdinal).pretty ++ "\n" := by
  have houtcome := session_outcome watch env value (verbosity filter env)
  unfold printed
  by_cases hordinal : (Config.ofEnv env).deviceOrdinal = 0
  · rw [Reference.run_on_first watch value _ () hordinal] at houtcome
    rw [if_pos hordinal, if_pos hordinal, ← toJson_complete]
    exact run_of_report watch filter env hasked houtcome
  · rw [Reference.run_on_other watch value _ () hordinal] at houtcome
    rw [if_neg hordinal, if_neg hordinal, ← toJson_refused]
    exact run_of_report watch filter env hasked houtcome

end Run

theorem deviceOrdinal_congr {env env' : Env}
    (h : env' "HARNESS_DEVICE" = env "HARNESS_DEVICE") :
    (Config.ofEnv env').deviceOrdinal = (Config.ofEnv env).deviceOrdinal := by
  unfold Config.ofEnv
  rw [h]

/-- What the command prints is read as the value that it prints. -/
theorem parse?_printed (j : Json) : Json.parse? (j.pretty ++ "\n") = some j := by
  have hnone : ∀ c ∈ "".toList, Json.isSpace c = true := by
    intro c hc
    rw [String.toList_empty] at hc
    exact absurd hc List.not_mem_nil
  have hnewline : ∀ c ∈ "\n".toList, Json.isSpace c = true := by
    intro c hc
    rw [show "\n".toList = ['\n'] from rfl, List.mem_singleton] at hc
    rw [hc]
    rfl
  have h := Json.parse?_pretty j hnone hnewline
  rwa [String.empty_append] at h

/-- **How the command exits and what it prints.**  It exits with 2 and prints nothing iff there is a
first argument that spells no number of 32 bits.  Otherwise it exits with 0 iff the first device is
asked for, and what it prints is a line end after a JSON text that is read as the record of a
doubled number.  Asked for another device, it exits with 1, and what it prints is read as the record
of a device that is not there.  No other part of the environment changes any of this, and neither
does how a log filter reads it. -/
theorem exit_and_output (watch : Stopwatch) (filter : String → Option Verbosity)
    (args : List String) (env : Env) :
    let r := run watch filter args env
    let ordinal := (Config.ofEnv env).deviceOrdinal
    ((r.exit = 2 ∧ r.stdout = "") ↔
        ∃ arg rest, args = arg :: rest ∧
          ∀ v : Int32, ¬ Text.Numeral.Spells arg.toList v.toInt) ∧
      (∀ v, Asked args v →
        (r.exit = 0 ↔ ordinal = 0) ∧
        (ordinal = 0 → r.stdout = (doubledRecord watch v).pretty ++ "\n" ∧
          Json.parse? r.stdout = some (doubledRecord watch v)) ∧
        (ordinal ≠ 0 → r.exit = 1 ∧ r.stdout = (unavailableRecord ordinal).pretty ++ "\n" ∧
          Json.parse? r.stdout = some (unavailableRecord ordinal))) ∧
      ∀ filter' env', env' "HARNESS_DEVICE" = env "HARNESS_DEVICE" →
        (run watch filter' args env').exit = r.exit ∧
          (run watch filter' args env').stdout = r.stdout := by
  intro r ordinal
  rw [← not_asked_iff]
  refine ⟨⟨?_, run_of_not_asked watch filter env⟩, ?_, ?_⟩
  · rintro ⟨hexit, -⟩ v hasked
    rw [(run_of_asked watch filter env hasked).1] at hexit
    split at hexit <;> cases hexit
  · intro v hasked
    obtain ⟨hexit, hstdout⟩ := run_of_asked watch filter env hasked
    refine ⟨?_, ?_, ?_⟩
    · rw [hexit]
      simp [ordinal]
    · intro hordinal
      rw [hstdout, printed, if_pos hordinal]
      exact ⟨rfl, parse?_printed _⟩
    · intro hordinal
      rw [hexit, hstdout, printed, if_neg hordinal, if_neg hordinal]
      exact ⟨rfl, rfl, parse?_printed _⟩
  · intro filter' env' hdevice
    by_cases hasked : ∃ v, Asked args v
    · obtain ⟨v, hasked⟩ := hasked
      obtain ⟨hexit, hstdout⟩ := run_of_asked watch filter env hasked
      obtain ⟨hexit', hstdout'⟩ := run_of_asked watch filter' env' hasked
      rw [deviceOrdinal_congr hdevice] at hexit' hstdout'
      exact ⟨hexit'.trans hexit.symm, hstdout'.trans hstdout.symm⟩
    · have hnone := not_exists.1 hasked
      obtain ⟨hexit, hstdout⟩ := run_of_not_asked watch filter env hnone
      obtain ⟨hexit', hstdout'⟩ := run_of_not_asked watch filter' env' hnone
      exact ⟨hexit'.trans hexit.symm, hstdout'.trans hstdout.symm⟩

/-- An environment in which everything but the device is set. -/
def busyEnv : Env := fun name =>
  if name = "HARNESS_DEVICE" then none else some "1"

/-- An environment that only asks for the fourth device. -/
def fourthEnv : Env := fun name =>
  if name = "HARNESS_DEVICE" then some " +03 " else none

/-- The double of the least number wraps to zero, whatever else is set, but there is no fourth
device to double it. -/
theorem doubling_the_least_number :
    let watch : Stopwatch := fun _ => 1000000001
    let args := ["-2147483648", "7"]
    let r := run watch Verbosity.ofText? args busyEnv
    Asked args (-2147483648) ∧ r.exit = 0 ∧
      Json.parse? r.stdout = some (doubledRecord watch (-2147483648)) ∧
      (2 * (-2147483648 : Int32).toInt).bmod 4294967296 = 0 ∧
      (run watch (fun _ => none) args fun _ => none).stdout = r.stdout ∧
      (run watch Verbosity.ofText? args fourthEnv).exit = 1 ∧
      Json.parse? (run watch Verbosity.ofText? args fourthEnv).stdout =
        some (unavailableRecord 3) := by
  intro watch args r
  have hasked : Asked args (-2147483648) := value_eq_ok_iff.1 (by decide +kernel)
  obtain ⟨-, hanswer, hother⟩ := exit_and_output watch Verbosity.ofText? args busyEnv
  obtain ⟨hexit, hstdout, -⟩ := hanswer _ hasked
  have hfourth : (Config.ofEnv fourthEnv).deviceOrdinal = 3 := by decide +kernel
  obtain ⟨-, hanswer', -⟩ := exit_and_output watch Verbosity.ofText? args fourthEnv
  obtain ⟨-, -, hrefused⟩ := hanswer' _ hasked
  rw [hfourth] at hrefused
  obtain ⟨hexit', -, hread'⟩ := hrefused (by decide)
  exact ⟨hasked, hexit.2 rfl, (hstdout rfl).2, by decide,
    (hother (fun _ => none) (fun _ => none) rfl).2, hexit', hread'⟩

end Command

end Offload
