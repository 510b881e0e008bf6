/-
**Building the kernels.**

The build step compiles the kernel files with an external compiler.  If the compiler does not know
the architecture, it is called once more with one that it surely knows.  The step tells the package
manager on standard output what it depends on, and the user on standard error what it does.

Main definitions:

* `Offload.Toolchain.Machine` — the environment and the programs that can be started;
* `Offload.Toolchain.Transcript`, `Offload.Toolchain.Abort` — what the step prints and calls, and
  why it may stop;
* `Offload.Toolchain.compileKernel` — one kernel file;
* `Offload.Toolchain.build` — the whole step.
-/

import Offload.Text.Lines
import Offload.Toolchain.Compiler
import Offload.Toolchain.Toolkit

set_option autoImplicit false

namespace Offload.Toolchain

/-- Where the step runs.  A program that can be started answers each of its calls, which are
numbered from zero. -/
structure Machine where
  env : Env
  program? : String → Option (Nat → List String → Reply)
  /-- The search path of the system, for an environment that sets none. -/
  defaultPath : String := "/bin:/usr/bin"

/-- What the step has printed and called so far. -/
structure Transcript where
  stdout : List String := []
  stderr : List String := []
  /-- The argument lists of the compiler calls. -/
  calls : List (List String) := []
deriving DecidableEq, Repr, Inhabited

/-- The lines on standard output. -/
def Transcript.stdoutLines (t : Transcript) : List String :=
  t.stdout.flatMap Text.lines

/-- The lines on standard error. -/
def Transcript.stderrLines (t : Transcript) : List String :=
  t.stderr.flatMap Text.lines

/-- Why the step stops. -/
inductive Abort where
  | noOutputDirectory
  | cannotStart (program : String)
  | compilationFailed
deriving DecidableEq, Repr

/-- A part of the step.  What has been printed stays when it stops. -/
abbrev Build (α : Type) : Type :=
  ExceptT Abort (StateM Transcript) α

namespace Build

/-- Prints on standard output. -/
def print (line : String) : Build Unit :=
  modify fun t => { t with stdout := t.stdout ++ [line] }

/-- Prints on standard error. -/
def tell (line : String) : Build Unit :=
  modify fun t => { t with stderr := t.stderr ++ [line] }

end Build

/-- The program that a name without a slash stands for: the first one on the search path. -/
def Machine.search (m : Machine) (name : String) : Option (Nat → List String → Reply) :=
  let path := (m.env "PATH").getD m.defaultPath
  ((path.toList.splitOnP fun c => c = ':').map String.ofList).findSome? fun directory =>
    m.program? (Text.join (if directory = "" then "." else directory) name)

/-- The program that can be started under a name. -/
def Machine.start? (m : Machine) (name : String) : Option (Nat → List String → Reply) :=
  if name = "" then none
  else if name.toList.contains '/' then m.program? name
  else m.search name

/-- Calls the compiler. -/
def runCompiler (m : Machine) (i : Invocation) : Build Reply := do
  Build.tell ("Running nvcc command: " ++ i.shown)
  match m.start? i.program with
  | none => throw (.cannotStart i.program)
  | some program => do
      let t ← get
      modify fun t => { t with calls := t.calls ++ [i.args] }
      pure (program t.calls.length i.args)

/-- The directory that kernel files are named below. -/
def kernelPrefix : String := "kernels/cuda/"

/-- The path of a kernel file, whose directory the environment may replace. -/
def sourcePath (env : Env) (file : String) : String :=
  match env "CUDA_KERNEL_DIR", Text.withoutPrefix? kernelPrefix file with
  | some root, some rest => Text.trimEnd (fun c => c = '/' || c = '\\') root ++ "/" ++ rest
  | _, _ => file

/-- Compiles one kernel file with the toolkit in a directory. -/
def compileKernel (m : Machine) (toolkit file target : String) : Build Unit := do
  let source := sourcePath m.env file
  Build.print ("cargo:rerun-if-changed=" ++ source)
  match m.env "OUT_DIR" with
  | none => throw .noOutputDirectory
  | some directory => do
      let target := Text.join directory target
      let compiler := (m.env "NVCC").getD (toolkit ++ "/bin/nvcc")
      let arch := selectArch m.env
      let first ← runCompiler m (invocation m.env compiler arch target source)
      let last ←
        if !first.succeeded && arch ≠ fallbackArch && first.refusesArch then do
          Build.tell (String.join ["Falling back to -arch=", fallbackArch, " for ", file,
            " (nvcc doesn't support ", arch, ")"])
          runCompiler m (invocation m.env compiler fallbackArch target source)
        else pure first
      if last.succeeded then Build.tell (String.join ["Compiled ", source, " to ", target])
      else do
        Build.tell (String.join ["CUDA compilation failed for ", file, "!"])
        Build.tell ("stdout: " ++ last.stdout)
        Build.tell ("stderr: " ++ last.stderr)
        throw .compilationFailed

/-- The kernel files with the names of what they are compiled to. -/
def kernelFiles : List (String × String) :=
  [("kernels/cuda/harness_kernels.cu", "harness_kernels.ptx")]

/-- The environment variables that the step depends on. -/
def watchedVariables : List String :=
  ["CUDA_PATH", "CUDA_HOME", "CUDA_ARCH", "CUDA_ARCHS", "CUDA_KERNEL_DIR", "NVCC", "NVCC_ARGS",
    "CUDA_DEBUG", "CUDA_FAST_MATH"]

/-- Compiles files in order. -/
def compileAll (m : Machine) (toolkit : String) : List (String × String) → Build Unit
  | [] => pure ()
  | (file, target) :: rest => do
      compileKernel m toolkit file target
      compileAll m toolkit rest

/-- The build step.  Without the feature that needs the kernels there is nothing to do. -/
def build (m : Machine) : Build Unit := do
  if (m.env "CARGO_FEATURE_CUDA").isSome then do
    Build.print "cargo:rerun-if-changed=kernels/cuda"
    modify fun t => { t with
      stdout := t.stdout ++ watchedVariables.map fun name => "cargo:rerun-if-env-changed=" ++ name }
    compileAll m (toolkitPath m.env) kernelFiles
  else Build.print "cargo:warning=feature `cuda` not enabled; skipping PTX build"

/-- Runs a part of the step from the start. -/
def Build.transcript {α : Type} (x : Build α) : Except Abort α × Transcript :=
  (ExceptT.run x).run {}

/-- The exit code of the step. -/
def exitCode {α : Type} : Except Abort α → Nat
  | .ok _ => 0
  | .error _ => 101

end Offload.Toolchain
