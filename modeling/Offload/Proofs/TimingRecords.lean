/-
**Records of times.**

The time of a phase may be recorded again and again, and the phases in any order.  What is left is
the last duration of each phase, in the order of the phases, whatever came before it.

The durations of the phases are added up one after the other.  Seconds and nanoseconds have a
machine word each, the nanoseconds make up more seconds in the end, and every sum of seconds is
checked.  A step keeps the exact number of nanoseconds, or it panics; as sums only grow, the exact
sum of all durations is then too long for a duration as well.  So the sum is exact, and panics iff
the seconds of the exact sum do not fit in a word.

Main definitions:

* `Offload.Duration.Exact` — how a number of nanoseconds comes out as a duration;
* `Offload.Timings.after` — the timings after some records;
* `Offload.Timings.last?` — the last duration that was recorded for a phase.

Main results:

* `Offload.Duration.Tally.add_cases`, `Offload.Duration.exact_sum` — one step of a sum, and a sum;
* `Offload.Timings.get_after` — the last record of a phase is kept;
* `Offload.Timings.timings_after_records` — **what is left of a sequence of records**.
-/

import Offload.Timings

set_option autoImplicit false

namespace Offload

/-! ### Sums of durations -/

namespace Duration

/-- How `n` nanoseconds come out as a duration: there is one iff its seconds fit in a word. -/
structure Exact (n : Nat) (o : Outcome Duration) : Prop where
  fits : n / nanosPerSec < Word.bound → ∃ d, o = .ok d ∧ d.toNanos = n
  exceeds : Word.bound ≤ n / nanosPerSec → o = .panic .durationOverflow

theorem Exact.panics_iff {n : Nat} {o : Outcome Duration} (h : Exact n o) :
    o = .panic .durationOverflow ↔ Word.bound ≤ n / nanosPerSec := by
  refine ⟨fun hpanic => ?_, h.exceeds⟩
  rcases Nat.lt_or_ge (n / nanosPerSec) Word.bound with hlt | hge
  · obtain ⟨d, hok, -⟩ := h.fits hlt
    cases hok.symm.trans hpanic
  · exact hge

namespace Tally

/-- The exact number of nanoseconds of a running sum. -/
def toNanos (t : Tally) : Nat :=
  t.secs * nanosPerSec + t.nanos

theorem toNanos_div (t : Tally) : t.toNanos / nanosPerSec = t.secs + t.nanos / nanosPerSec := by
  unfold toNanos
  rw [Nat.add_comm, Nat.add_mul_div_right _ _ (by decide), Nat.add_comm]

/-- The carry loses nothing. -/
theorem exact_settle (t : Tally) : Exact t.toNanos t.settle := by
  unfold settle
  constructor
  · intro hfits
    rw [toNanos_div] at hfits
    have hsecs : (UInt64.ofNat (t.secs + t.nanos / nanosPerSec)).toNat =
        t.secs + t.nanos / nanosPerSec := by
      rw [UInt64.toNat_ofNat']
      exact Nat.mod_eq_of_lt hfits
    rw [if_pos hfits]
    refine ⟨_, rfl, ?_⟩
    simp only [Duration.toNanos, toNanos, hsecs, toNat_ofNat_rest]
    rw [Nat.add_mul, Nat.add_assoc, Nat.mul_comm (t.nanos / nanosPerSec), Nat.div_add_mod]
  · intro hexceeds
    rw [toNanos_div] at hexceeds
    rw [if_neg (Nat.not_lt_of_ge hexceeds)]

/-- Seconds that do not fit make a sum that does not fit. -/
theorem le_div_of_secs {t : Tally} (h : Word.bound ≤ t.secs) :
    Word.bound ≤ t.toNanos / nanosPerSec := by
  rw [toNanos_div]
  exact Nat.le_trans h (Nat.le_add_right _ _)

/-- **One step of a sum** keeps the exact number of nanoseconds, or panics because that number is
too large for a duration. -/
theorem add_cases (t : Tally) (d : Duration) :
    (∃ t', t.add d = .ok t' ∧ t'.toNanos = t.toNanos + d.toNanos) ∨
      t.add d = .panic .durationOverflow ∧
        Word.bound ≤ (t.toNanos + d.toNanos) / nanosPerSec := by
  let seconds : Tally := ⟨t.secs + d.secs.toNat, t.nanos⟩
  have hsum : seconds.toNanos + d.nanos.toNat = t.toNanos + d.toNanos := by
    simp only [seconds, toNanos, Duration.toNanos, Nat.add_mul]
    omega
  have hgrows : seconds.toNanos / nanosPerSec ≤ (t.toNanos + d.toNanos) / nanosPerSec :=
    Nat.div_le_div_right (hsum ▸ Nat.le_add_right _ _)
  unfold add
  rcases Nat.lt_or_ge seconds.secs Word.bound with hsecs | hsecs
  · rw [if_pos hsecs]
    by_cases hnanos : t.nanos + d.nanos.toNat < Word.bound
    · rw [if_pos hnanos]
      refine Or.inl ⟨_, rfl, hsum ▸ ?_⟩
      simp only [seconds, toNanos]
      omega
    · -- the nanoseconds need room: they are carried before the new ones are added
      rw [if_neg hnanos]
      rcases Nat.lt_or_ge (seconds.toNanos / nanosPerSec) Word.bound with hfits | hexceeds
      · obtain ⟨carried, hok, hcarried⟩ := seconds.exact_settle.fits hfits
        refine Or.inl ⟨⟨carried.secs.toNat, carried.nanos.toNat + d.nanos.toNat⟩, ?_, ?_⟩
        · rw [hok, Outcome.ok_bind, Outcome.pure_eq]
        · rw [← hsum, ← hcarried]
          simp only [toNanos, Duration.toNanos]
          omega
      · have hpanic := seconds.exact_settle.exceeds hexceeds
        refine Or.inr ⟨?_, Nat.le_trans hexceeds hgrows⟩
        rw [hpanic, Outcome.panic_bind]
  · rw [if_neg (Nat.not_lt_of_ge hsecs)]
    exact Or.inr ⟨rfl, Nat.le_trans (le_div_of_secs hsecs) hgrows⟩

/-- The rest of a sum, from any running sum on. -/
theorem exact_foldlM (ds : List Duration) (t : Tally) :
    Exact (t.toNanos + Word.total (ds.map Duration.toNanos)) (ds.foldlM add t >>= settle) := by
  induction ds generalizing t with
  | nil =>
      rw [List.foldlM_nil, Outcome.pure_eq, Outcome.ok_bind, List.map_nil, Word.total_nil,
        Nat.add_zero]
      exact t.exact_settle
  | cons d ds ih =>
      rw [List.foldlM_cons, List.map_cons, Word.total_cons, ← Nat.add_assoc]
      rcases t.add_cases d with ⟨t', hok, hsum⟩ | ⟨hpanic, hexceeds⟩
      · rw [hok, Outcome.ok_bind, ← hsum]
        exact ih t'
      · -- what comes after the panic only makes the sum longer
        have hall : Word.bound ≤
            (t.toNanos + d.toNanos + Word.total (ds.map Duration.toNanos)) / nanosPerSec :=
          Nat.le_trans hexceeds (Nat.div_le_div_right (Nat.le_add_right _ _))
        rw [hpanic, Outcome.panic_bind, Outcome.panic_bind]
        exact ⟨fun hlt => absurd hlt (Nat.not_lt_of_ge hall), fun _ => rfl⟩

end Tally

/-- **A sum of durations is exact**, or it panics because the exact sum is too long. -/
theorem exact_sum (ds : List Duration) : Exact (Word.total (ds.map toNanos)) (sum ds) := by
  have hsum := Tally.exact_foldlM ds {}
  rwa [show Tally.toNanos {} = 0 from rfl, Nat.zero_add] at hsum

end Duration

/-! ### Records -/

theorem Phase.mem_all (p : Phase) : p ∈ Phase.all := by
  cases p <;> decide

namespace Timings

/-- Timings are what they tell about each phase. -/
theorem eq_of_get {t t' : Timings} (h : ∀ p, t.get p = t'.get p) : t = t' := by
  obtain ⟨setup, prepareEnv, kernel, freeMemory⟩ := t
  obtain ⟨setup', prepareEnv', kernel', freeMemory'⟩ := t'
  obtain rfl : setup = setup' := h .setup
  obtain rfl : prepareEnv = prepareEnv' := h .prepareEnv
  obtain rfl : kernel = kernel' := h .kernel
  obtain rfl : freeMemory = freeMemory' := h .freeMemory
  rfl

/-- The timings after some records, made one after the other. -/
def after (calls : List (Phase × Duration)) : Timings :=
  calls.foldl (fun t c => t.record c.1 c.2) {}

/-- The last duration that was recorded for a phase. -/
def last? (calls : List (Phase × Duration)) (p : Phase) : Option Duration :=
  (calls.filter fun c => c.1 = p).getLast?.map Prod.snd

section Last

variable {calls calls' : List (Phase × Duration)} {p : Phase} {d : Duration}

@[simp] theorem last?_self : last? [(p, d)] p = some d := by
  simp [last?]

theorem last?_append : last? (calls ++ calls') p = (last? calls' p).or (last? calls p) := by
  unfold last?
  rw [List.filter_append, List.getLast?_append, Option.map_or]

/-- A phase has no last duration iff it was never recorded. -/
theorem last?_eq_none_iff : last? calls p = none ↔ p ∉ calls.map Prod.fst := by
  unfold last?
  rw [Option.map_eq_none_iff, List.getLast?_eq_none_iff, List.filter_eq_nil_iff, List.mem_map]
  constructor
  · rintro h ⟨c, hc, hphase⟩
    exact h c hc (decide_eq_true hphase)
  · intro h c hc hphase
    exact h ⟨c, hc, of_decide_eq_true hphase⟩

theorem last?_isSome_iff : (last? calls p).isSome = true ↔ p ∈ calls.map Prod.fst := by
  rw [Option.isSome_iff_ne_none, ne_eq, last?_eq_none_iff, Decidable.not_not]

/-- A duration is the last one of a phase iff it was recorded for it, and none after it. -/
theorem last?_eq_some_iff : last? calls p = some d ↔
    ∃ earlier later, calls = earlier ++ (p, d) :: later ∧ p ∉ later.map Prod.fst := by
  constructor
  · intro h
    obtain ⟨⟨q, e⟩, hlast, rfl⟩ := Option.map_eq_some_iff.1 h
    obtain ⟨others, hfilter⟩ := List.getLast?_eq_some_iff.1 hlast
    obtain ⟨earlier, rest, rfl, -, hrest⟩ := List.filter_eq_append_iff.1 hfilter
    obtain ⟨between, later, rfl, -, hphase, hlater⟩ := List.filter_eq_cons_iff.1 hrest
    obtain rfl : q = p := of_decide_eq_true hphase
    refine ⟨earlier ++ between, later, by simp, ?_⟩
    rw [← last?_eq_none_iff, last?, hlater]
    rfl
  · rintro ⟨earlier, later, rfl, hlater⟩
    rw [List.append_cons, last?_append, last?_append, last?_eq_none_iff.2 hlater, last?_self]
    rfl

end Last

/-- The last records win over the timings at the start. -/
theorem get_foldl_record (calls : List (Phase × Duration)) (t : Timings) (p : Phase) :
    (calls.foldl (fun t c => t.record c.1 c.2) t).get p = (last? calls p).or (t.get p) := by
  induction calls generalizing t with
  | nil => rfl
  | cons c calls ih =>
      obtain ⟨q, d⟩ := c
      rw [List.foldl_cons, ih, ← List.singleton_append, last?_append, Option.or_assoc]
      by_cases h : p = q
      · subst h
        rw [get_record_self, last?_self, Option.some_or]
      · have hnone : last? [(q, d)] p = none := last?_eq_none_iff.2 (by simpa using h)
        rw [get_record_of_ne t d h, hnone, Option.none_or]

/-- **The last record of a phase is kept.** -/
theorem get_after (calls : List (Phase × Duration)) (p : Phase) :
    (after calls).get p = last? calls p := by
  have hstart : ({} : Timings).get p = none := by cases p <;> rfl
  rw [after, get_foldl_record, hstart, Option.or_none]

/-- Records leave the same timings iff they have the same last durations. -/
theorem after_eq_iff {calls calls' : List (Phase × Duration)} :
    after calls = after calls' ↔ ∀ p, last? calls p = last? calls' p := by
  constructor
  · intro h p
    rw [← get_after, ← get_after, h]
  · intro h
    refine eq_of_get fun p => ?_
    rw [get_after, get_after, h]

/-! ### What timings tell -/

section Views

variable {t : Timings}

theorem mem_recorded_iff {p : Phase} {d : Duration} : (p, d) ∈ t.recorded ↔ t.get p = some d := by
  simp [recorded, Phase.mem_all]

theorem map_fst_recorded (t : Timings) :
    t.recorded.map Prod.fst = Phase.all.filter fun p => (t.get p).isSome := by
  unfold recorded
  induction Phase.all with
  | nil => rfl
  | cons p ps ih =>
      cases hget : t.get p with
      | none => simpa [hget] using ih
      | some d => simpa [hget] using ih

theorem isComplete_iff : t.isComplete = true ↔ ∀ p, (t.get p).isSome = true := by
  simp [isComplete, Phase.mem_all]

/-- The nanoseconds of a phase, none if it did not run. -/
def nanosOf (t : Timings) (p : Phase) : Nat :=
  (t.get p).elim 0 Duration.toNanos

/-- A phase that did not run adds nothing to the sum. -/
theorem total_recorded (t : Timings) :
    Word.total ((t.recorded.map Prod.snd).map Duration.toNanos) =
      Word.total (Phase.all.map t.nanosOf) := by
  unfold recorded
  induction Phase.all with
  | nil => rfl
  | cons p ps ih =>
      cases hget : t.get p with
      | none => simpa [hget, nanosOf] using ih
      | some d => simpa [hget, nanosOf] using ih

theorem exact_total (t : Timings) :
    Duration.Exact (Word.total (Phase.all.map t.nanosOf)) t.total := by
  rw [← total_recorded]
  exact Duration.exact_sum _

end Views

/-! ### Sequences of records -/

/-- **What is left of a sequence of records**, in which phases may occur in any order and more than
once.  Each phase has the last duration that was recorded for it.  The phases that occur are listed
in their order, with these durations, and all phases are there iff all of them occur.  Nothing else
of the sequence counts.  The total is the exact sum of the last durations, if its seconds fit in a
word, and otherwise there is a panic. -/
theorem timings_after_records (calls : List (Phase × Duration)) :
    let t := after calls
    let spent p := (last? calls p).elim 0 Duration.toNanos
    let n := spent .setup + spent .prepareEnv + spent .kernel + spent .freeMemory
    (∀ p, t.get p = last? calls p) ∧
      (∀ p d, last? calls p = some d ↔
        ∃ earlier later, calls = earlier ++ (p, d) :: later ∧ p ∉ later.map Prod.fst) ∧
      (∀ p, last? calls p = none ↔ p ∉ calls.map Prod.fst) ∧
      t.recorded.map Prod.fst =
        [.setup, .prepareEnv, .kernel, .freeMemory].filter (· ∈ calls.map Prod.fst) ∧
      (∀ p d, (p, d) ∈ t.recorded ↔ last? calls p = some d) ∧
      (t.isComplete = true ↔ ∀ p, p ∈ calls.map Prod.fst) ∧
      (∀ calls', after calls = after calls' ↔ ∀ p, last? calls p = last? calls' p) ∧
      (n / Duration.nanosPerSec < UInt64.size → ∃ d, t.total = .ok d ∧ d.toNanos = n) ∧
      (t.total = .panic .durationOverflow ↔ UInt64.size ≤ n / Duration.nanosPerSec) := by
  intro t spent n
  have hnanos : t.nanosOf = spent := by
    funext p
    rw [nanosOf, get_after]
  have htotal : Word.total (Phase.all.map t.nanosOf) = n := by
    rw [hnanos]
    simp only [Phase.all, List.map_cons, List.map_nil, Word.total_cons, Word.total_nil, n]
    omega
  have hexact : Duration.Exact n t.total := htotal ▸ exact_total t
  refine ⟨get_after calls, fun _ _ => last?_eq_some_iff, fun _ => last?_eq_none_iff, ?_, ?_, ?_,
    fun _ => after_eq_iff, hexact.fits, hexact.panics_iff⟩
  · rw [map_fst_recorded]
    refine List.filter_congr fun p _ => ?_
    rw [get_after, Bool.eq_iff_iff, last?_isSome_iff, decide_eq_true_iff]
  · intro p d
    rw [mem_recorded_iff, get_after]
  · rw [isComplete_iff]
    refine forall_congr' fun p => ?_
    rw [get_after, last?_isSome_iff]

/-- Two nanoseconds. -/
def moment : Duration :=
  ⟨0, 2, by decide⟩

/-- Two nanoseconds less than a second. -/
def almostSecond : Duration :=
  ⟨0, 999999998, by decide⟩

/-- One second and one nanosecond less than the longest duration. -/
def secondShort : Duration :=
  ⟨18446744073709551614, 999999998, by decide⟩

/-- One nanosecond less than the longest duration. -/
def almostLongest : Duration :=
  ⟨18446744073709551615, 999999998, by decide⟩

/-- Records out of order, two of which are replaced. -/
def crowded : List (Phase × Duration) :=
  [(.kernel, almostLongest), (.freeMemory, moment), (.kernel, secondShort), (.setup, moment),
    (.freeMemory, almostSecond)]

/-- The nanoseconds are carried into the last second that fits, which leaves room for one of them.
Two more, and the total panics. -/
theorem timings_after_crowded :
    let t := after crowded
    let t' := after (crowded ++ [(.prepareEnv, moment)])
    t.get .kernel = some secondShort ∧
      t.recorded.map Prod.fst = [.setup, .kernel, .freeMemory] ∧
      t = after [(.freeMemory, almostSecond), (.setup, moment), (.kernel, secondShort)] ∧
      (∃ d, t.total = .ok d ∧ d.toNanos = almostLongest.toNanos) ∧
      t'.isComplete = true ∧ t'.total = .panic .durationOverflow := by
  intro t t'
  obtain ⟨hget, -, -, hrecorded, -, -, hsame, hfits, -⟩ := timings_after_records crowded
  obtain ⟨-, -, -, -, -, hcomplete, -, -, hpanics⟩ :=
    timings_after_records (crowded ++ [(.prepareEnv, moment)])
  refine ⟨(hget .kernel).trans (by decide), hrecorded.trans (by decide), (hsame _).2 ?_,
    hfits (by decide), hcomplete.2 ?_, hpanics.2 (by decide)⟩
  · intro p
    cases p <;> decide
  · intro p
    cases p <;> decide

end Timings

end Offload
