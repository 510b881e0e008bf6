/-
**Calling the kernel compiler.**

The command line of the kernel compiler, and what its answer says about the target architecture.

Main definitions:

* `Offload.Toolchain.Invocation`, `Offload.Toolchain.Reply` — a call of a program and its answer;
* `Offload.Toolchain.invocation` — the call that compiles one kernel file;
* `Offload.Toolchain.Invocation.shown` — the call as it is printed;
* `Offload.Toolchain.Reply.refusesArch` — whether the compiler does not know the architecture.
-/

import Offload.Text.Hex
import Offload.Text.Quoted
import Offload.Toolchain.Arch

set_option autoImplicit false

namespace Offload.Toolchain

/-- A call of a program. -/
structure Invocation where
  program : String
  args : List String
deriving DecidableEq, Repr

/-- What a program leaves when it ends. -/
structure Reply where
  /-- The exit status, a byte. -/
  status : UInt8
  stdout : String
  stderr : String
deriving DecidableEq, Repr

/-- Whether a program succeeded. -/
def Reply.succeeded (r : Reply) : Bool :=
  r.status = 0

/-- Whether the compiler does not know the architecture. -/
def Reply.refusesArch (r : Reply) : Bool :=
  Text.occursIn "unsupported gpu architecture" r.stderr ||
    Text.occursIn "Value 'compute_" r.stderr ||
    Text.occursIn "unsupported gpu architecture" r.stdout

/-- The call that compiles `source` for an architecture into the file `target`. -/
def invocation (env : Env) (compiler arch target source : String) : Invocation where
  program := compiler
  args :=
    ["-std=c++17", "--expt-relaxed-constexpr", "-ptx", "-O3"] ++
    (if env "CUDA_FAST_MATH" = some "0" then [] else ["--use_fast_math"]) ++
    (if env "CUDA_DEBUG" = some "1" then ["-lineinfo"] else []) ++
    ["-arch", arch, "-o", target, source] ++
    Text.words ((env "NVCC_ARGS").getD "")

/-- A character in the name of a program.  It is written as in any quoted text, except that single
quotes are marked too, and that a control character of the ASCII range is a byte in two digits. -/
def programChar (c : Char) : List Char :=
  match Text.Quoted.mark? c with
  | some mark => ['\\', mark]
  | none =>
      if c = '\x27' then ['\\', c]
      else if Text.isShown c then [c]
      else if c.toNat < 0x80 then ['\\', 'x'] ++ Text.Hex.byte (UInt8.ofNat c.toNat)
      else Text.Quoted.codePoint c

/-- The name of a program in double quotes. -/
def quotedProgram (name : String) : String :=
  "\"" ++ String.ofList (name.toList.flatMap programChar) ++ "\""

/-- A call as it is printed: the name of the program, then the arguments as quoted texts. -/
def Invocation.shown (i : Invocation) : String :=
  String.intercalate " " (quotedProgram i.program :: i.args.map Text.Quoted.encode)

end Offload.Toolchain
