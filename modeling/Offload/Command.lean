/-
**The command.**

The command runs one doubling session on an emulated device and prints its report.  Its only
argument is the number to double; settings and verbosity come from the environment.  How a text asks
for a verbosity is up to the log filter, so the command takes that reading as it is given.

Main definitions:

* `Offload.Command.value` — the number to double;
* `Offload.Command.Result` — exit code, standard output, and what goes to standard error;
* `Offload.Command.run` — the command.
-/

import Offload.Foreign
import Offload.Json.Forms
import Offload.Reference

set_option autoImplicit false

namespace Offload.Command

/-- The number to double when none is given. -/
def defaultValue : Int32 := 42

/-- The number to double: the first argument, the others being ignored. -/
def value : List String → Except Text.Numeral.Fault Int32
  | [] => .ok defaultValue
  | arg :: _ => Text.Numeral.int32 arg

/-- How much the environment wants to be recorded.  A text that the filter cannot read counts as
none. -/
def verbosity (filter : String → Option Verbosity) (env : Env) : Verbosity :=
  ((env "RUST_LOG").bind filter).getD ⟨some .info⟩

/-- What the command leaves. -/
structure Result where
  exit : Nat
  stdout : String
  /-- The log, which goes to standard error. -/
  log : List Record
  /-- A last word on standard error. -/
  complaint : Option String
deriving DecidableEq, Repr

/-- Announces the session and runs it. -/
def session (watch : Stopwatch) (env : Env) (value : Int32) :
    Act (Emulated × Unit) (Report Int32) := do
  let s ← Act.get
  Act.note .info "running session"
    (.ok [.text "device" (Device.name s.1), .plain "value" (toString value.toInt)])
  run (Config.ofEnv env) watch Reference.doubleJob ⟨value⟩

/-- Runs the command. -/
def run (watch : Stopwatch) (filter : String → Option Verbosity) (args : List String) (env : Env) :
    Result :=
  match value args with
  | .error fault => ⟨2, "", [], some s!"gpu-harness: {fault.message}"⟩
  | .ok value =>
      let step := session watch env value (verbosity filter env) (Reference.device, ())
      match step.outcome with
      | .ok report =>
          let text := (report.toJson fun n => .integer n.toInt).pretty
          ⟨if report.isSuccess then 0 else 1, text ++ "\n", step.log, none⟩
      | .error e => ⟨2, "", step.log, some s!"gpu-harness: {e.message}"⟩
      | .panic p => ⟨101, "", step.log, some p.message⟩

/-- The lines on standard error. -/
def Result.stderr (r : Result) : List String :=
  Record.lines r.log ++ r.complaint.toList

end Offload.Command
