/-
**Falling back to an architecture that is known.**

A kernel file is compiled for the selected architecture.  If the compiler fails and says that it
does not know that architecture, it is called once more, with the same words except for the
architecture.  The compiler is an arbitrary program here: it may answer each call in any way.

Main definitions:

* `Offload.Text.Contains` — one text lies in another;
* `Offload.Toolchain.Reply.Unsupported` — an answer that complains about the architecture;
* `Offload.Toolchain.Build.resume` — a part of the build step, run after what was done before;
* `Offload.Toolchain.callFor` — the call for one architecture;
* `Offload.Toolchain.proceed`, `Offload.Toolchain.conclude` — what is done with the first answer,
  and with the last one;
* `Offload.Toolchain.answers` — what a program answers to calls in a row.

Main results:

* `Offload.Toolchain.Reply.refusesArch_iff` — when an answer counts as a complaint;
* `Offload.Toolchain.args_callFor` — the calls differ in one word;
* `Offload.Toolchain.resume_compileKernel` — the run of one compilation, in both cases;
* `Offload.Toolchain.falls_back_once` — **the calls that are made, and how it ends**.
-/

import Offload.Toolchain.Build

set_option autoImplicit false

namespace Offload

/-! ### Complaints -/

namespace Text

/-- One text lies in another. -/
def Contains (s part : String) : Prop :=
  ∃ before after : String, s = before ++ part ++ after

theorem hasSublist_iff {needle l : List Char} :
    hasSublist needle l = true ↔ ∃ before after, l = before ++ needle ++ after := by
  induction l with
  | nil =>
      rw [hasSublist, List.isEmpty_iff]
      constructor
      · rintro rfl
        exact ⟨[], [], rfl⟩
      · rintro ⟨before, after, h⟩
        simp only [List.nil_eq, List.append_eq_nil_iff] at h
        exact h.1.2
  | cons c rest ih =>
      rw [hasSublist, Bool.or_eq_true, List.isPrefixOf_iff_prefix, ih]
      constructor
      · rintro (⟨after, h⟩ | ⟨before, after, rfl⟩)
        · exact ⟨[], after, h.symm⟩
        · exact ⟨c :: before, after, rfl⟩
      · rintro ⟨before, after, h⟩
        cases before with
        | nil => exact Or.inl ⟨after, h.symm⟩
        | cons d before =>
            obtain ⟨-, htail⟩ := List.cons.inj h
            exact Or.inr ⟨before, after, htail⟩

theorem occursIn_iff {part s : String} : occursIn part s = true ↔ Contains s part := by
  rw [occursIn, hasSublist_iff]
  constructor
  · rintro ⟨before, after, h⟩
    refine ⟨String.ofList before, String.ofList after, ?_⟩
    rw [← String.toList_inj, String.toList_append, String.toList_append, String.toList_ofList,
      String.toList_ofList, h]
  · rintro ⟨before, after, rfl⟩
    exact ⟨before.toList, after.toList, by rw [String.toList_append, String.toList_append]⟩

end Text

namespace Toolchain

/-- An answer that complains about the architecture. -/
def Reply.Unsupported (r : Reply) : Prop :=
  Text.Contains r.stderr "unsupported gpu architecture" ∨
    Text.Contains r.stderr "Value 'compute_" ∨
    Text.Contains r.stdout "unsupported gpu architecture"

theorem Reply.refusesArch_iff {r : Reply} : r.refusesArch = true ↔ r.Unsupported := by
  rw [refusesArch, Bool.or_eq_true, Bool.or_eq_true, Text.occursIn_iff, Text.occursIn_iff,
    Text.occursIn_iff, or_assoc]
  rfl

/-! ### Parts of the step in a row -/

namespace Build

variable {α β : Type} {x : Build α} {f : α → Build β} {t t' : Transcript}

/-- Runs a part of the step after what has been printed and called before. -/
def resume (x : Build α) (t : Transcript) : Except Abort α × Transcript :=
  (ExceptT.run x).run t

theorem resume_bind_of_ok {a : α} (h : x.resume t = (.ok a, t')) :
    (x >>= f).resume t = (f a).resume t' := by
  unfold resume at h ⊢
  rw [ExceptT.run_bind, StateT.run_bind, h]
  rfl

@[simp] theorem resume_print (line : String) :
    (print line).resume t = (.ok (), { t with stdout := t.stdout ++ [line] }) := rfl

@[simp] theorem resume_tell (line : String) :
    (tell line).resume t = (.ok (), { t with stderr := t.stderr ++ [line] }) := rfl

end Build

/-! ### Calls -/

section Calls

variable {m : Machine} {program : Nat → List String → Reply}

/-- A program that can be started gets the call, and its answer is handed on. -/
theorem resume_runCompiler {i : Invocation} (h : m.start? i.program = some program)
    (t : Transcript) :
    (runCompiler m i).resume t = (.ok (program t.calls.length i.args), { t with
      stderr := t.stderr ++ ["Running nvcc command: " ++ i.shown]
      calls := t.calls ++ [i.args] }) := by
  unfold runCompiler
  rw [Build.resume_bind_of_ok (Build.resume_tell _), h]
  rfl

/-- The call for one architecture. -/
def callFor (m : Machine) (toolkit file target directory arch : String) : Invocation :=
  invocation m.env ((m.env "NVCC").getD (toolkit ++ "/bin/nvcc")) arch (Text.join directory target)
    (sourcePath m.env file)

/-- The words in front of the architecture. -/
def wordsBefore (env : Env) : List String :=
  ["-std=c++17", "--expt-relaxed-constexpr", "-ptx", "-O3"] ++
    (if env "CUDA_FAST_MATH" = some "0" then [] else ["--use_fast_math"]) ++
    (if env "CUDA_DEBUG" = some "1" then ["-lineinfo"] else [])

theorem not_mem_wordsBefore (env : Env) : "-arch" ∉ wordsBefore env := by
  unfold wordsBefore
  split <;> split <;> decide

/-- **The calls differ in one word.** -/
theorem args_callFor (m : Machine) (toolkit file target directory arch : String) :
    (callFor m toolkit file target directory arch).args = wordsBefore m.env ++ "-arch" :: arch ::
      (["-o", Text.join directory target, sourcePath m.env file] ++
        Text.words ((m.env "NVCC_ARGS").getD "")) := by
  simp only [callFor, invocation, wordsBefore, List.append_assoc, List.cons_append, List.nil_append]

/-- How the step ends after the last answer. -/
def verdict (last : Reply) : Except Abort Unit :=
  if last.succeeded then .ok () else .error .compilationFailed

theorem verdict_eq_ok_iff {last : Reply} : verdict last = .ok () ↔ last.succeeded = true := by
  unfold verdict
  cases last.succeeded <;> simp

theorem verdict_eq_error_iff {last : Reply} :
    verdict last = .error .compilationFailed ↔ last.succeeded = false := by
  unfold verdict
  cases last.succeeded <;> simp

/-- What is done with the last answer. -/
def conclude (file source target : String) (last : Reply) : Build Unit :=
  if last.succeeded then Build.tell (String.join ["Compiled ", source, " to ", target])
  else do
    Build.tell (String.join ["CUDA compilation failed for ", file, "!"])
    Build.tell ("stdout: " ++ last.stdout)
    Build.tell ("stderr: " ++ last.stderr)
    throw .compilationFailed

/-- No call follows the last answer. -/
theorem resume_conclude (file source target : String) (last : Reply) (t : Transcript) :
    ((conclude file source target last).resume t).2.calls = t.calls ∧
      ((conclude file source target last).resume t).1 = verdict last := by
  unfold conclude verdict
  cases last.succeeded with
  | true => exact ⟨rfl, rfl⟩
  | false => exact ⟨rfl, rfl⟩

/-- The first answer calls for another architecture, and there is one to fall back to. -/
def FallsBack (arch : String) (first : Reply) : Prop :=
  first.succeeded = false ∧ arch ≠ fallbackArch ∧ first.Unsupported

theorem fallsBack_iff {arch : String} {first : Reply} :
    (!first.succeeded && arch ≠ fallbackArch && first.refusesArch) = true ↔
      FallsBack arch first := by
  rw [Bool.and_eq_true, Bool.and_eq_true, Bool.not_eq_true', decide_eq_true_eq,
    Reply.refusesArch_iff, and_assoc]
  rfl

/-! ### One kernel file -/

variable {toolkit directory : String} (file target : String)

/-- What is done with the first answer. -/
def proceed (m : Machine) (toolkit file target directory : String) (first : Reply) : Build Unit :=
  let finish := conclude file (sourcePath m.env file) (Text.join directory target)
  if !first.succeeded && selectArch m.env ≠ fallbackArch && first.refusesArch then do
    Build.tell (String.join ["Falling back to -arch=", fallbackArch, " for ", file,
      " (nvcc doesn't support ", selectArch m.env, ")"])
    let last ← runCompiler m (callFor m toolkit file target directory fallbackArch)
    finish last
  else finish first

theorem compileKernel_eq (hout : m.env "OUT_DIR" = some directory) :
    compileKernel m toolkit file target = (do
      Build.print ("cargo:rerun-if-changed=" ++ sourcePath m.env file)
      let first ← runCompiler m (callFor m toolkit file target directory (selectArch m.env))
      proceed m toolkit file target directory first) := by
  unfold compileKernel
  rw [hout]
  rfl

/-- After the first answer there is one more call, or none. -/
theorem resume_proceed
    (hstart : m.start? ((m.env "NVCC").getD (toolkit ++ "/bin/nvcc")) = some program)
    (first : Reply) (t : Transcript) :
    let ended := (proceed m toolkit file target directory first).resume t
    let words := (callFor m toolkit file target directory fallbackArch).args
    (¬ FallsBack (selectArch m.env) first ∧ ended.2.calls = t.calls ∧ ended.1 = verdict first) ∨
      (FallsBack (selectArch m.env) first ∧ ended.2.calls = t.calls ++ [words] ∧
        ended.1 = verdict (program t.calls.length words)) := by
  intro ended words
  by_cases hback : FallsBack (selectArch m.env) first
  · have hcall := resume_runCompiler
      (i := callFor m toolkit file target directory fallbackArch) hstart
    refine Or.inr ⟨hback, ?_⟩
    simp only [ended, proceed]
    rw [if_pos (fallsBack_iff.2 hback), Build.resume_bind_of_ok (Build.resume_tell _),
      Build.resume_bind_of_ok (hcall _)]
    exact resume_conclude ..
  · refine Or.inl ⟨hback, ?_⟩
    simp only [ended, proceed]
    rw [if_neg (mt fallsBack_iff.1 hback)]
    exact resume_conclude ..

/-- **The run of one compilation**: one call or two, and the last answer decides. -/
theorem resume_compileKernel (hout : m.env "OUT_DIR" = some directory)
    (hstart : m.start? ((m.env "NVCC").getD (toolkit ++ "/bin/nvcc")) = some program)
    (t : Transcript) :
    let arch := selectArch m.env
    let ended := (compileKernel m toolkit file target).resume t
    let words := fun arch => (callFor m toolkit file target directory arch).args
    let first := program t.calls.length (words arch)
    let second := program (t.calls.length + 1) (words fallbackArch)
    (¬ FallsBack arch first ∧ ended.2.calls = t.calls ++ [words arch] ∧ ended.1 = verdict first) ∨
      (FallsBack arch first ∧ ended.2.calls = t.calls ++ [words arch, words fallbackArch] ∧
        ended.1 = verdict second) := by
  intro arch ended words first second
  have hcall := resume_runCompiler (i := callFor m toolkit file target directory arch) hstart
  have hended : ended = _ :=
    congrArg (fun x => Build.resume x t) (compileKernel_eq file target hout)
  rw [Build.resume_bind_of_ok (Build.resume_print _), Build.resume_bind_of_ok (hcall _)] at hended
  rw [hended]
  rcases resume_proceed file target hstart first _ with ⟨hback, hcalls, hresult⟩ |
    ⟨hback, hcalls, hresult⟩
  · exact Or.inl ⟨hback, hcalls, hresult⟩
  · rw [List.append_assoc] at hcalls
    rw [List.length_append] at hresult
    exact Or.inr ⟨hback, hcalls, hresult⟩

/-- What a program answers to calls in a row, of which the first has a given number. -/
def answers (program : Nat → List String → Reply) (number : Nat) (calls : List (List String)) :
    List Reply :=
  calls.mapIdx fun i words => program (number + i) words

/-- **A compilation falls back once.**  Where there is a directory for the results and the compiler
can be started, it is called once or twice, whatever it answers.  The words of a call are the same
for every architecture except for the one behind `-arch`, and extra words come last.  The first call
is for the selected architecture.  There is a second call iff the first one failed with a complaint
about an architecture other than `compute_80`, and it is for that one.  The compilation succeeds iff
the last call did, and is given up otherwise. -/
theorem falls_back_once (hout : m.env "OUT_DIR" = some directory)
    (hstart : m.start? ((m.env "NVCC").getD (toolkit ++ "/bin/nvcc")) = some program)
    (t : Transcript) :
    let arch := selectArch m.env
    let ended := (compileKernel m toolkit file target).resume t
    ∃ before after, "-arch" ∉ before ∧
      after = ["-o", Text.join directory target, sourcePath m.env file] ++
        Text.words ((m.env "NVCC_ARGS").getD "") ∧
      let words := fun arch => before ++ "-arch" :: arch :: after
      ∃ made first last, ended.2.calls = t.calls ++ made ∧
        (made = [words arch] ∨ made = [words arch, words "compute_80"]) ∧
        (answers program t.calls.length made).head? = some first ∧
        (answers program t.calls.length made).getLast? = some last ∧
        (made.length = 2 ↔
          first.succeeded = false ∧ arch ≠ "compute_80" ∧ first.Unsupported) ∧
        (ended.1 = .ok () ↔ last.succeeded = true) ∧
        (ended.1 = .error .compilationFailed ↔ last.succeeded = false) := by
  intro arch ended
  refine ⟨wordsBefore m.env, _, not_mem_wordsBefore m.env, rfl, ?_⟩
  intro words
  have hwords : ∀ a, (callFor m toolkit file target directory a).args = words a :=
    args_callFor m toolkit file target directory
  have hrun := resume_compileKernel file target hout hstart t
  simp only [hwords] at hrun
  rcases hrun with ⟨hback, hcalls, hresult⟩ | ⟨hback, hcalls, hresult⟩
  · refine ⟨[words arch], _, _, hcalls, Or.inl rfl, rfl, rfl, ⟨nofun, fun h => absurd h hback⟩, ?_⟩
    rw [hresult]
    exact ⟨verdict_eq_ok_iff, verdict_eq_error_iff⟩
  · refine ⟨[words arch, words fallbackArch], _, _, hcalls, Or.inr rfl, rfl, rfl,
      ⟨fun _ => hback, fun _ => rfl⟩, ?_⟩
    rw [hresult]
    exact ⟨verdict_eq_ok_iff, verdict_eq_error_iff⟩

end Calls

/-- A compiler that knows one architecture. -/
def oldCompiler (_ : Nat) (words : List String) : Reply :=
  if words.contains "compute_80" then ⟨0, "", ""⟩
  else ⟨1, "", "nvcc fatal   : unsupported gpu architecture 'compute_90'"⟩

/-- A machine with that compiler, which is asked for a newer architecture. -/
def oldMachine : Machine where
  env name := List.lookup name [("OUT_DIR", "/out"), ("NVCC", "./nvcc"), ("CUDA_ARCHS", "9.0"),
    ("CUDA_FAST_MATH", "0"), ("NVCC_ARGS", " -v  --keep ")]
  program? path := if path = "./nvcc" then some oldCompiler else none

/-- There the second call succeeds, with all words but one as in the first. -/
theorem falls_back_on_old_machine :
    let ended := (compileKernel oldMachine "/usr/local/cuda" "kernel.cu" "kernel.ptx").transcript
    ended.1 = .ok () ∧ ∃ before after, "-arch" ∉ before ∧
      after = ["-o", "/out/kernel.ptx", "kernel.cu", "-v", "--keep"] ∧
      ended.2.calls = [before ++ "-arch" :: "compute_90" :: after,
        before ++ "-arch" :: "compute_80" :: after] := by
  intro ended
  have hout : oldMachine.env "OUT_DIR" = some "/out" := by decide +kernel
  have hstart : oldMachine.start? ((oldMachine.env "NVCC").getD
      ("/usr/local/cuda" ++ "/bin/nvcc")) = some oldCompiler := by
    have hname : (oldMachine.env "NVCC").getD ("/usr/local/cuda" ++ "/bin/nvcc") = "./nvcc" := by
      decide +kernel
    rw [hname]
    rfl
  have harch : selectArch oldMachine.env = "compute_90" := by decide +kernel
  have htwice : ended.2.calls.length = 2 := by decide +kernel
  obtain ⟨before, after, hnone, hafter, made, first, last, hcalls, hmade, -, hlast, -, hok, -⟩ :=
    falls_back_once "kernel.cu" "kernel.ptx" hout hstart {}
  have hcalls : ended.2.calls = made := hcalls
  rw [harch] at hmade
  rcases hmade with rfl | rfl
  · rw [hcalls] at htwice
    cases htwice
  · obtain rfl : oldCompiler 1 (before ++ "-arch" :: "compute_80" :: after) = last :=
      Option.some.inj hlast
    have hknown : (before ++ "-arch" :: "compute_80" :: after).contains "compute_80" = true := by
      simp
    refine ⟨hok.2 ?_, before, after, hnone, hafter.trans (by decide +kernel), hcalls⟩
    rw [oldCompiler, if_pos hknown]
    rfl

end Toolchain

end Offload
