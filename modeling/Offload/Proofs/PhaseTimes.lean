/-
**The times in a foreign record.**

A foreign caller gets the time of each phase in a machine word, and the largest word stands for a
phase that did not run.  Durations go far beyond a word, about a thousand million times as far; the
ones that are too long are cut to the largest time that is left.

The cut comes one nanosecond too late.  A duration of exactly the largest word fits, so it is kept,
and reads as a phase that did not run.  It is the only one: every shorter duration is kept, every
longer one is cut, and the order of two durations is only lost between this one and a longer one.

Main definitions:

* `Offload.Foreign.Record.timeOf` — the entry of a record for a phase.

Main results:

* `Offload.Foreign.Record.slot_eq_notRun_iff` — which entries read as not run;
* `Offload.Foreign.Record.slot_le_slot_iff` — which entries keep the order of durations;
* `Offload.Foreign.Record.times_of_report` — **the entry of every phase of every report**.
-/

import Offload.Foreign

set_option autoImplicit false

namespace Offload.Foreign.Record

variable {ρ ρ' : Type}

/-- The entry of a record for a phase. -/
def timeOf (r : Record ρ) : Phase → Nat
  | .setup => r.setupNs
  | .prepareEnv => r.prepareEnvNs
  | .kernel => r.kernelNs
  | .freeMemory => r.freeMemoryNs

theorem timeOf_ofReport (r : Report ρ) (p : Phase) :
    (ofReport r).timeOf p = slot (r.timings.get p) := by
  cases p <;> rfl

/-! ### One entry -/

section Slot

variable {d d' : Duration}

theorem lt_bound_iff {n : Nat} : n < Word.bound ↔ n ≤ notRun := by
  have hbound : notRun + 1 = Word.bound := by decide
  omega

/-- A duration that fits in a word is kept, also the longest such. -/
theorem slot_of_le (h : d.toNanos ≤ notRun) : slot (some d) = d.toNanos :=
  if_pos (lt_bound_iff.2 h)

theorem slot_of_gt (h : notRun < d.toNanos) : slot (some d) = notRun - 1 :=
  if_neg fun hlt => Nat.not_le_of_gt h (lt_bound_iff.1 hlt)

/-- An entry reads as not run iff there is no duration, or the one of that many nanoseconds. -/
theorem slot_eq_notRun_iff (o : Option Duration) :
    slot o = notRun ↔ o = none ∨ ∃ d, o = some d ∧ d.toNanos = notRun := by
  have hpos : 0 < notRun := by decide
  cases o with
  | none => simp [slot]
  | some d =>
      rcases Nat.lt_or_ge notRun d.toNanos with hgt | hle
      · rw [slot_of_gt hgt]
        simp only [reduceCtorEq, Option.some.injEq, exists_eq_left', false_or]
        omega
      · rw [slot_of_le hle]
        simp

/-- The longer of two durations has the larger entry, unless the other one reads as not run. -/
theorem slot_le_slot_iff (h : d.toNanos ≤ d'.toNanos) :
    slot (some d) ≤ slot (some d') ↔ ¬ (d.toNanos = notRun ∧ notRun < d'.toNanos) := by
  have hpos : 0 < notRun := by decide
  rcases Nat.lt_or_ge notRun d'.toNanos with hgt' | hle'
  · rw [slot_of_gt hgt']
    rcases Nat.lt_or_ge notRun d.toNanos with hgt | hle
    · rw [slot_of_gt hgt]
      omega
    · rw [slot_of_le hle]
      omega
  · rw [slot_of_le hle', slot_of_le (Nat.le_trans h hle')]
    omega

end Slot

/-! ### Reports -/

/-- **The entry of every phase of every report.**

It reads as not run iff the phase has no duration, or one of exactly that many nanoseconds.  Every
shorter duration is kept, and every longer one is cut to the largest time.  A longer duration, of
any phase of any report, has no smaller entry, unless the other duration reads as not run and the
longer one is cut. -/
theorem times_of_report (r : Report ρ) (p : Phase) :
    ((ofReport r).timeOf p = notRun ↔
        r.timings.get p = none ∨ ∃ d, r.timings.get p = some d ∧ d.toNanos = notRun) ∧
      (∀ d, r.timings.get p = some d →
        (d.toNanos ≤ notRun - 1 → (ofReport r).timeOf p = d.toNanos) ∧
        (notRun < d.toNanos → (ofReport r).timeOf p = notRun - 1)) ∧
      ∀ (r' : Report ρ') (q : Phase) (d d' : Duration), r.timings.get p = some d →
        r'.timings.get q = some d' → d.toNanos ≤ d'.toNanos →
        ((ofReport r).timeOf p ≤ (ofReport r').timeOf q ↔
          ¬ (d.toNanos = notRun ∧ notRun < d'.toNanos)) := by
  simp only [timeOf_ofReport]
  refine ⟨slot_eq_notRun_iff _, ?_, ?_⟩
  · intro d hd
    rw [hd]
    exact ⟨fun hle => slot_of_le (Nat.le_trans hle (Nat.sub_le _ _)), slot_of_gt⟩
  · intro r' q d d' hd hd' hle
    rw [hd, hd']
    exact slot_le_slot_iff hle

/-- The longest duration below the one that reads as not run. -/
def longestKept : Duration :=
  ⟨18446744073, 709551614, by decide⟩

/-- The duration that reads as not run. -/
def mistaken : Duration :=
  ⟨18446744073, 709551615, by decide⟩

/-- The shortest duration that is cut. -/
def shortestCut : Duration :=
  ⟨18446744073, 709551616, by decide⟩

/-- A report with the setup and the kernels timed. -/
def timedReport (setup kernel : Duration) : Report Int32 :=
  { timings := { setup := some setup, kernel := some kernel } }

/-- One nanosecond off the mark on either side, the times are in order, and apart from the phases
that did not run. -/
theorem times_beside_notRun :
    let r := timedReport longestKept shortestCut
    (ofReport r).timeOf .setup = 18446744073709551614 ∧
      (ofReport r).timeOf .kernel = 18446744073709551614 ∧
      (ofReport r).timeOf .prepareEnv = notRun ∧
      (ofReport r).timeOf .setup ≤ (ofReport r).timeOf .kernel := by
  intro r
  obtain ⟨-, hsetup, horder⟩ := @times_of_report Int32 Int32 r .setup
  obtain ⟨-, hkernel, -⟩ := @times_of_report Int32 Int32 r .kernel
  obtain ⟨hnone, -, -⟩ := @times_of_report Int32 Int32 r .prepareEnv
  refine ⟨(hsetup longestKept rfl).1 (by decide), (hkernel shortestCut rfl).2 (by decide),
    hnone.2 (.inl rfl), ?_⟩
  exact (horder r .kernel longestKept shortestCut rfl rfl (by decide)).2 (by decide)

/-- At the mark, a phase that was timed reads as not run, and one that took a nanosecond more has
the smaller entry. -/
theorem mistaken_time_of_report :
    let r := timedReport mistaken shortestCut
    r.timings.get .setup = some mistaken ∧ (ofReport r).timeOf .setup = notRun ∧
      mistaken.toNanos ≤ shortestCut.toNanos ∧
      ¬ (ofReport r).timeOf .setup ≤ (ofReport r).timeOf .kernel := by
  decide +kernel

end Offload.Foreign.Record
