/-
**The stages of a session.**

A session passes through its stages in one direction.  Setup may end it at once; after setup
every path leads through the release of memory.

Main definitions:

* `Offload.Stage` — the seven stages, in the order in which they can be reached;
* `Offload.Stage.canAdvance` — which stage may follow which.
-/

set_option autoImplicit false

namespace Offload

/-- Where a session stands.  No stage is entered twice. -/
inductive Stage where
  | idle
  | initializing
  | preparing
  | executing
  | copyingBack
  | tearingDown
  | done
deriving DecidableEq, Repr, Inhabited

namespace Stage

/-- All stages, in order. -/
def all : List Stage :=
  [idle, initializing, preparing, executing, copyingBack, tearingDown, done]

/-- The name of a stage, in messages and in JSON. -/
def name : Stage → String
  | idle => "Idle"
  | initializing => "Initializing"
  | preparing => "Preparing"
  | executing => "Executing"
  | copyingBack => "CopyingBack"
  | tearingDown => "TearingDown"
  | done => "Done"

/-- The position of a stage in the order of the session. -/
def rank : Stage → Nat
  | idle => 0
  | initializing => 1
  | preparing => 2
  | executing => 3
  | copyingBack => 4
  | tearingDown => 5
  | done => 6

/-- Whether the second stage may follow the first one. -/
def canAdvance : Stage → Stage → Bool
  | idle, initializing => true
  | initializing, preparing => true
  | initializing, done => true
  | preparing, executing => true
  | preparing, tearingDown => true
  | executing, copyingBack => true
  | executing, tearingDown => true
  | copyingBack, tearingDown => true
  | tearingDown, done => true
  | _, _ => false

/-- A session only moves forward. -/
theorem rank_lt_of_canAdvance {s t : Stage} (h : s.canAdvance t = true) : s.rank < t.rank := by
  cases s <;> cases t <;> first | decide | (simp [canAdvance] at h)

end Stage

end Offload
