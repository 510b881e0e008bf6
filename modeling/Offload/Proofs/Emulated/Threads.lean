/-
**The threads of a launch.**

A launch runs its kernel in six nested loops: over the blocks of the grid, and inside each block
over its threads, with `z` outermost and `x` innermost in both.  The device runs through the same
threads by their numbers.  The number of a thread is written in a system of six digits, one for each
loop, and counting up is what the loops do; so the two orders are one, whatever the sizes are.

The kernel itself may ask for the number of its thread, in machine words.  As long as the number of
all threads fits in a word, so does every step of that computation, and the answer is the number
under which the device runs the thread.

A launch ends with the first thread that does not succeed, and that thread is the last one that the
kernel is called for.

Main definitions:

* `Offload.Extent.points`, `Offload.Geometry.threads` — the points of an extent and the threads of a
  launch, as nested loops list them;
* `Offload.Extent.Inside`, `Offload.Thread.Inside` — positions inside their sizes;
* `Offload.Emulated.visits`, `Offload.Launch.visited` — the threads for which a body is called;
* `Offload.Emulated.runOver` — a body run in some threads;
* `Offload.Launch.ends` — how the body of a launch ends in a thread.

Main results:

* `Offload.Geometry.totalThreads_eq_ok_iff` — when the threads of a launch can be counted;
* `Offload.Geometry.threads_eq` — **counting up is running six nested loops**;
* `Offload.Geometry.globalLinear_thread` — a thread computes its own number;
* `Offload.Emulated.visits_of_ok`, `Offload.Emulated.visits_of_stop` — the threads up to the first
  one that does not succeed;
* `Offload.Emulated.launch_covers_index_space` — **a launch visits every thread once, in order**.
-/

import Mathlib.Data.List.Nodup
import Offload.Proofs.Emulated.Operations

set_option autoImplicit false

namespace Offload

/-! ### Counting -/

/-- Counting to a product is counting to the second factor, again and again. -/
theorem range_mul (a b : Nat) :
    List.range (a * b) = (List.range a).flatMap fun i => (List.range b).map fun j => i * b + j := by
  induction a with
  | zero => simp
  | succ a ih =>
      rw [Nat.succ_mul, List.range_add, ih, List.range_succ, List.flatMap_append]
      simp

/-- The digits of a number that is written with two of them. -/
theorem div_mod_of_lt {q b r : Nat} (h : r < b) : (q * b + r) / b = q ∧ (q * b + r) % b = r := by
  refine (Nat.div_mod_unique (by omega)).2 ⟨?_, h⟩
  rw [Nat.mul_comm]
  omega

namespace Extent

/-- A position inside a size. -/
def Inside (p e : Extent) : Prop :=
  p.x < e.x ∧ p.y < e.y ∧ p.z < e.z

instance (p e : Extent) : Decidable (p.Inside e) :=
  inferInstanceAs (Decidable (_ ∧ _))

/-- A size without points. -/
def IsEmpty (e : Extent) : Prop :=
  e.x = 0 ∨ e.y = 0 ∨ e.z = 0

/-- The points of an extent as three nested loops list them, `x` in the innermost one. -/
def points (e : Extent) : List Extent :=
  (List.range e.z.toNat).flatMap fun z =>
    (List.range e.y.toNat).flatMap fun y =>
      (List.range e.x.toNat).map fun x => ⟨UInt32.ofNat x, UInt32.ofNat y, UInt32.ofNat z⟩

/-- The number of the point at a position. -/
def number (e : Extent) (x y z : Nat) : Nat :=
  (z * e.y.toNat + y) * e.x.toNat + x

variable {e p : Extent} {n x y z : Nat}

theorem count_of_isEmpty (h : e.IsEmpty) : e.count = 0 := by
  unfold count
  rcases h with h | h | h <;> simp [h]

/-- The point at a position has the number of that position. -/
theorem point_number (hx : x < e.x.toNat) (hy : y < e.y.toNat) :
    e.point (e.number x y z) = ⟨UInt32.ofNat x, UInt32.ofNat y, UInt32.ofNat z⟩ := by
  obtain ⟨hrow, hcell⟩ := div_mod_of_lt (q := z * e.y.toNat + y) hx
  obtain ⟨hplane, hline⟩ := div_mod_of_lt (q := z) hy
  rw [point, number, hrow, hcell, hplane, hline]

/-- **Counting up lists the points as the loops do.** -/
theorem points_eq (e : Extent) : e.points = (List.range e.count).map e.point := by
  have hcount : e.count = e.z.toNat * e.y.toNat * e.x.toNat := by
    rw [count, Nat.mul_comm, Nat.mul_comm e.x.toNat, Nat.mul_assoc]
  rw [hcount, range_mul, range_mul]
  simp only [List.map_flatMap, List.flatMap_assoc, List.flatMap_map, List.map_map]
  refine List.flatMap_congr fun z _ => List.flatMap_congr fun y hy => ?_
  refine List.map_congr_left fun x hx => ?_
  exact (point_number (List.mem_range.1 hx) (List.mem_range.1 hy)).symm

/-- The loops list the positions inside. -/
theorem mem_points_iff : p ∈ e.points ↔ p.Inside e := by
  simp only [points, List.mem_flatMap, List.mem_map, List.mem_range, Inside,
    UInt32.lt_iff_toNat_lt]
  constructor
  · rintro ⟨z, hz, y, hy, x, hx, rfl⟩
    have hsize := e.x.toNat_lt_size
    have hsize' := e.y.toNat_lt_size
    have hdepth := e.z.toNat_lt_size
    rw [UInt32.toNat_ofNat_of_lt' (by omega), UInt32.toNat_ofNat_of_lt' (by omega),
      UInt32.toNat_ofNat_of_lt' (by omega)]
    exact ⟨hx, hy, hz⟩
  · rintro ⟨hx, hy, hz⟩
    refine ⟨p.z.toNat, hz, p.y.toNat, hy, p.x.toNat, hx, ?_⟩
    rw [UInt32.ofNat_toNat, UInt32.ofNat_toNat, UInt32.ofNat_toNat]

theorem inside_point (h : n < e.count) : (e.point n).Inside e := by
  rw [← mem_points_iff, points_eq]
  exact List.mem_map_of_mem (List.mem_range.2 h)

/-- The point with a given number has that number. -/
theorem number_point (h : n < e.count) :
    e.number (e.point n).x.toNat (e.point n).y.toNat (e.point n).z.toNat = n := by
  have hpos : 0 < e.x.toNat * e.y.toNat := by
    refine Nat.pos_of_ne_zero fun hzero => ?_
    rw [count, hzero, Nat.zero_mul] at h
    omega
  have hx : 0 < e.x.toNat := Nat.pos_of_mul_pos_right hpos
  have hy : 0 < e.y.toNat := Nat.pos_of_mul_pos_left hpos
  have hz : n / e.x.toNat / e.y.toNat < e.z.toNat := by
    rw [Nat.div_div_eq_div_mul, Nat.div_lt_iff_lt_mul hpos, Nat.mul_comm]
    exact h
  have hsize := e.x.toNat_lt_size
  have hsize' := e.y.toNat_lt_size
  have hdepth := e.z.toNat_lt_size
  have hcell := Nat.mod_lt n hx
  have hline := Nat.mod_lt (n / e.x.toNat) hy
  rw [number, point, UInt32.toNat_ofNat_of_lt' (by omega), UInt32.toNat_ofNat_of_lt' (by omega),
    UInt32.toNat_ofNat_of_lt' (by omega), Nat.div_add_mod', Nat.div_add_mod']

/-- Two sizes always have a product that fits in a word. -/
theorem area_lt (e : Extent) : e.x.toNat * e.y.toNat < Word.bound := by
  have hx := e.x.toNat_lt_size
  have hy := e.y.toNat_lt_size
  have hle : e.x.toNat * e.y.toNat ≤ (UInt32.size - 1) * (UInt32.size - 1) :=
    Nat.mul_le_mul (by omega) (by omega)
  exact Nat.lt_of_le_of_lt hle (by decide)

/-- The points of an extent can be counted iff their number fits in a word. -/
theorem volume_eq_ok_iff : e.volume = .ok n ↔ e.count < Word.bound ∧ n = e.count := by
  have harea : Word.mul e.x.toNat e.y.toNat = .ok (e.x.toNat * e.y.toNat) :=
    Word.mul_eq_ok_iff.2 ⟨e.area_lt, rfl⟩
  rw [volume, harea]
  exact Word.mul_eq_ok_iff

end Extent

namespace Thread

variable {e p : Extent} {n : Nat}

/-- The number of a position, computed in machine words. -/
theorem flatten_eq (hx : 0 < e.x.toNat)
    (h : e.number p.x.toNat p.y.toNat p.z.toNat < Word.bound) :
    flatten e p = .ok (e.number p.x.toNat p.y.toNat p.z.toNat) := by
  unfold Extent.number at h ⊢
  -- every partial result is at most the number itself
  have hrows : p.z.toNat * e.y.toNat + p.y.toNat ≤
      (p.z.toNat * e.y.toNat + p.y.toNat) * e.x.toNat := Nat.le_mul_of_pos_right _ hx
  have hplanes : Word.mul p.z.toNat e.y.toNat = .ok (p.z.toNat * e.y.toNat) :=
    Word.mul_eq_ok_iff.2 ⟨by omega, rfl⟩
  have hlines : Word.add (p.z.toNat * e.y.toNat) p.y.toNat =
      .ok (p.z.toNat * e.y.toNat + p.y.toNat) := Word.add_eq_ok_iff.2 ⟨by omega, rfl⟩
  have hcells : Word.mul (p.z.toNat * e.y.toNat + p.y.toNat) e.x.toNat =
      .ok ((p.z.toNat * e.y.toNat + p.y.toNat) * e.x.toNat) :=
    Word.mul_eq_ok_iff.2 ⟨by omega, rfl⟩
  rw [flatten, hplanes, Outcome.ok_bind, hlines, Outcome.ok_bind, hcells, Outcome.ok_bind]
  exact Word.add_eq_ok_iff.2 ⟨h, rfl⟩

theorem flatten_point (h : n < e.count) (hn : n < Word.bound) :
    flatten e (e.point n) = .ok n := by
  have hnumber := Extent.number_point h
  have hx : 0 < e.x.toNat := by
    have hinside := (Extent.inside_point h).1
    rw [UInt32.lt_iff_toNat_lt] at hinside
    omega
  rw [flatten_eq hx (by rw [hnumber]; exact hn), hnumber]

/-- The place of a thread in a launch of a given size. -/
def Inside (t : Thread) (g : Geometry) : Prop :=
  t.grid = g.grid ∧ t.block = g.block ∧ t.blockIndex.Inside g.grid ∧ t.threadIndex.Inside g.block

instance (t : Thread) (g : Geometry) : Decidable (t.Inside g) :=
  inferInstanceAs (Decidable (_ ∧ _))

/-- The index along the first dimension fits in a word, whatever the sizes are. -/
theorem globalX_eq {t : Thread} {g : Geometry} (h : t.Inside g) :
    t.globalX = .ok (t.blockIndex.x.toNat * g.block.x.toNat + t.threadIndex.x.toNat) := by
  obtain ⟨-, hblock, ⟨hx, -, -⟩, hthread, -, -⟩ := h
  rw [UInt32.lt_iff_toNat_lt] at hx hthread
  have hsize := g.grid.x.toNat_lt_size
  have hsize' := g.block.x.toNat_lt_size
  -- the block with the next index would still end below the square of the largest size
  have hnext : (t.blockIndex.x.toNat + 1) * g.block.x.toNat ≤
      (UInt32.size - 1) * (UInt32.size - 1) := Nat.mul_le_mul (by omega) (by omega)
  have hbound : (UInt32.size - 1) * (UInt32.size - 1) < Word.bound := by decide
  rw [Nat.succ_mul] at hnext
  have hbase : Word.mul t.blockIndex.x.toNat t.block.x.toNat =
      .ok (t.blockIndex.x.toNat * g.block.x.toNat) := by
    rw [hblock]
    exact Word.mul_eq_ok_iff.2 ⟨by omega, rfl⟩
  rw [globalX, hbase, Outcome.ok_bind]
  exact Word.add_eq_ok_iff.2 ⟨by omega, rfl⟩

theorem exists_globalX {t : Thread} {g : Geometry} (h : t.Inside g) : ∃ x, t.globalX = .ok x :=
  ⟨_, globalX_eq h⟩

end Thread

/-! ### Launches -/

namespace Geometry

/-- A launch without threads. -/
def IsEmpty (g : Geometry) : Prop :=
  g.grid.IsEmpty ∨ g.block.IsEmpty

/-- The threads of a launch as six nested loops list them: block after block, and thread after
thread in each block. -/
def threads (g : Geometry) : List Thread :=
  g.grid.points.flatMap fun block => g.block.points.map fun thread =>
    ⟨g.grid, g.block, block, thread⟩

variable {g : Geometry} {n total : Nat} {t : Thread}

theorem count_of_isEmpty (h : g.IsEmpty) : g.count = 0 := by
  unfold count
  rcases h with h | h
  · rw [Extent.count_of_isEmpty h, Nat.zero_mul]
  · rw [Extent.count_of_isEmpty h, Nat.mul_zero]

/-- The threads of a launch can be counted iff the numbers of blocks, of threads in a block and of
threads in all fit in a word. -/
theorem totalThreads_eq_ok_iff :
    g.totalThreads = .ok n ↔ g.grid.count < Word.bound ∧ g.block.count < Word.bound ∧
      g.count < Word.bound ∧ n = g.count := by
  unfold totalThreads
  simp only [Outcome.bind_eq_ok, Extent.volume_eq_ok_iff, Word.mul_eq_ok_iff]
  constructor
  · rintro ⟨blocks, ⟨hgrid, rfl⟩, threads, ⟨hblock, rfl⟩, hall, rfl⟩
    exact ⟨hgrid, hblock, hall, rfl⟩
  · rintro ⟨hgrid, hblock, hall, rfl⟩
    exact ⟨_, ⟨hgrid, rfl⟩, _, ⟨hblock, rfl⟩, hall, rfl⟩

/-- **Counting up is running six nested loops.** -/
theorem threads_eq (g : Geometry) : g.threads = (List.range g.count).map g.thread := by
  rw [threads, count, range_mul, Extent.points_eq, Extent.points_eq]
  simp only [List.map_flatMap, List.flatMap_map, List.map_map]
  refine List.flatMap_congr fun i _ => List.map_congr_left fun j hj => ?_
  obtain ⟨hdiv, hmod⟩ := div_mod_of_lt (q := i) (List.mem_range.1 hj)
  simp only [Function.comp_apply, thread, hdiv, hmod]

/-- The loops list the threads inside. -/
theorem mem_threads_iff : t ∈ g.threads ↔ t.Inside g := by
  simp only [threads, List.mem_flatMap, List.mem_map, Extent.mem_points_iff, Thread.Inside]
  constructor
  · rintro ⟨block, hblock, thread, hthread, rfl⟩
    exact ⟨rfl, rfl, hblock, hthread⟩
  · rintro ⟨hgrid, hsize, hblock, hthread⟩
    refine ⟨t.blockIndex, hblock, t.threadIndex, hthread, ?_⟩
    rw [← hgrid, ← hsize]

theorem inside_thread (h : n < g.count) : (g.thread n).Inside g := by
  rw [← mem_threads_iff, threads_eq]
  exact List.mem_map_of_mem (List.mem_range.2 h)

/-- **A thread computes its own number.** -/
theorem globalLinear_thread (h : n < g.count) (hcount : g.count < Word.bound) :
    (g.thread n).globalLinear = .ok n := by
  have hblock : 0 < g.block.count := by
    refine Nat.pos_of_ne_zero fun hzero => ?_
    rw [count, hzero, Nat.mul_zero] at h
    omega
  have hdiv : n / g.block.count < g.grid.count := (Nat.div_lt_iff_lt_mul hblock).2 h
  have hmod : n % g.block.count < g.block.count := Nat.mod_lt n hblock
  have hle : g.block.count ≤ g.count :=
    Nat.le_mul_of_pos_left _ (Nat.lt_of_le_of_lt (Nat.zero_le _) hdiv)
  have hself := Nat.div_le_self n g.block.count
  have hvolume : g.block.volume = .ok g.block.count :=
    Extent.volume_eq_ok_iff.2 ⟨by omega, rfl⟩
  have hsum : n / g.block.count * g.block.count + n % g.block.count = n := Nat.div_add_mod' ..
  have hbase : Word.mul (n / g.block.count) g.block.count =
      .ok (n / g.block.count * g.block.count) := Word.mul_eq_ok_iff.2 ⟨by omega, rfl⟩
  simp only [Thread.globalLinear, thread]
  rw [Thread.flatten_point hdiv (by omega), Outcome.ok_bind,
    Thread.flatten_point hmod (by omega), Outcome.ok_bind, hvolume, Outcome.ok_bind, hbase,
    Outcome.ok_bind]
  exact Word.add_eq_ok_iff.2 ⟨by omega, hsum.symm⟩

/-- No thread is listed twice. -/
theorem nodup_threads (hcount : g.count < Word.bound) : g.threads.Nodup := by
  rw [threads_eq]
  refine List.Nodup.map_on ?_ List.nodup_range
  intro i hi j hj heq
  have hnumber := globalLinear_thread (List.mem_range.1 hi) hcount
  rw [heq, globalLinear_thread (List.mem_range.1 hj) hcount] at hnumber
  exact (Outcome.ok.inj hnumber).symm

end Geometry

/-! ### Visits -/

namespace Emulated

/-- The threads for which a body is called, of the next `count` ones from the number `first` on: all
of them, or those up to the first one that does not succeed. -/
def visits (body : Thread → Kernel Unit) (geometry : Geometry) :
    (count first : Nat) → Memory → List Thread
  | 0, _, _ => []
  | count + 1, first, m =>
      geometry.thread first :: match (body (geometry.thread first)).run m with
        | (.ok (), m) => visits body geometry count (first + 1) m
        | _ => []

/-- Runs a body in some threads one after the other, up to the first one that does not succeed. -/
def runOver (body : Thread → Kernel Unit) : List Thread → Memory → Outcome Unit × Memory
  | [], m => (.ok (), m)
  | t :: rest, m =>
      match (body t).run m with
      | (.ok (), m) => runOver body rest m
      | (.error e, m) => (.error e, m)
      | (.panic p, m) => (.panic p, m)

/-- How a body ends in the thread with a given number, in the memory that the threads before it
leave. -/
def endsIn (body : Thread → Kernel Unit) (geometry : Geometry) (m : Memory) (n : Nat) :
    Outcome Unit :=
  ((body (geometry.thread n)).run (runThreads body geometry n 0 m).2).1

variable {body : Thread → Kernel Unit} {geometry : Geometry} {count first n : Nat} {m m' : Memory}

section Thread

/-- After a thread that succeeds the next ones follow. -/
theorem step_of_ok (h : (body (geometry.thread first)).run m = (.ok (), m')) (count : Nat) :
    visits body geometry (count + 1) first m =
        geometry.thread first :: visits body geometry count (first + 1) m' ∧
      runThreads body geometry (count + 1) first m =
        runThreads body geometry count (first + 1) m' := by
  rw [visits, runThreads, h]
  exact ⟨rfl, rfl⟩

/-- A thread that does not succeed is the last one. -/
theorem step_of_stop (h : ((body (geometry.thread first)).run m).1 ≠ .ok ()) (count : Nat) :
    visits body geometry (count + 1) first m = [geometry.thread first] ∧
      runThreads body geometry (count + 1) first m = (body (geometry.thread first)).run m := by
  rw [visits, runThreads]
  rcases hrun : (body (geometry.thread first)).run m with ⟨outcome, left⟩
  rw [hrun] at h
  cases outcome with
  | ok u => exact absurd rfl h
  | error e => exact ⟨rfl, rfl⟩
  | panic p => exact ⟨rfl, rfl⟩

end Thread

/-- The threads are visited in the order of their numbers. -/
theorem visits_prefix (body : Thread → Kernel Unit) (geometry : Geometry) (count first : Nat)
    (m : Memory) :
    visits body geometry count first m <+: (List.range' first count).map geometry.thread := by
  induction count generalizing first m with
  | zero => exact List.nil_prefix
  | succ count ih =>
      rw [List.range'_succ, List.map_cons]
      by_cases hok : ((body (geometry.thread first)).run m).1 = .ok ()
      · rw [(step_of_ok (Prod.ext hok rfl) count).1]
        exact (List.prefix_cons_inj _).2 (ih _ _)
      · rw [(step_of_stop hok count).1]
        exact (List.prefix_cons_inj _).2 List.nil_prefix

/-- Running threads by their numbers is running the visited ones. -/
theorem runThreads_eq_runOver (body : Thread → Kernel Unit) (geometry : Geometry)
    (count first : Nat) (m : Memory) :
    runThreads body geometry count first m =
      runOver body (visits body geometry count first m) m := by
  induction count generalizing first m with
  | zero => rfl
  | succ count ih =>
      rw [runThreads, visits, runOver]
      rcases (body (geometry.thread first)).run m with ⟨_ | _ | _, left⟩
      · exact ih (first + 1) left
      · rfl
      · rfl

/-- What a body does in threads that are not visited does not matter. -/
theorem runThreads_congr {body' : Thread → Kernel Unit}
    (h : ∀ t ∈ visits body geometry count first m, body' t = body t) :
    runThreads body' geometry count first m = runThreads body geometry count first m := by
  induction count generalizing first m with
  | zero => rfl
  | succ count ih =>
      by_cases hok : ((body (geometry.thread first)).run m).1 = .ok ()
      · obtain ⟨hvisits, hrun⟩ := step_of_ok (Prod.ext hok rfl) count
        rw [hvisits] at h
        have hfirst := h _ List.mem_cons_self
        rw [hrun, (step_of_ok (by rw [hfirst]; exact Prod.ext hok rfl) count).2]
        exact ih fun t ht => h t (List.mem_cons_of_mem _ ht)
      · obtain ⟨hvisits, hrun⟩ := step_of_stop hok count
        rw [hvisits] at h
        have hfirst := h _ List.mem_cons_self
        rw [hrun, (step_of_stop (by rw [hfirst]; exact hok) count).2, hfirst]

/-- **Threads that succeed are visited one after the other**, and the rest of the launch starts from
the memory that they leave. -/
theorem visits_of_ok (h : ∀ k < n, endsIn body geometry m k = .ok ()) (rest : Nat) :
    visits body geometry (n + rest) 0 m = (List.range n).map geometry.thread ++
        visits body geometry rest n (runThreads body geometry n 0 m).2 ∧
      runThreads body geometry (n + rest) 0 m =
        runThreads body geometry rest n (runThreads body geometry n 0 m).2 := by
  induction n generalizing rest with
  | zero =>
      rw [Nat.zero_add]
      exact ⟨rfl, rfl⟩
  | succ n ih =>
      have hprevious : ∀ k < n, endsIn body geometry m k = .ok () := fun k hk => h k (by omega)
      have hlast := h n (by omega)
      -- the memory behind the last of these threads, by the same argument with no rest
      have hmemory : runThreads body geometry (n + 1) 0 m =
          runThreads body geometry 0 (n + 1)
            ((body (geometry.thread n)).run (runThreads body geometry n 0 m).2).2 :=
        (ih hprevious 1).2.trans (step_of_ok (Prod.ext hlast rfl) 0).2
      obtain ⟨hvisits, hrun⟩ := ih hprevious (rest + 1)
      obtain ⟨hstep, hnext⟩ := step_of_ok (Prod.ext hlast rfl) rest
      rw [Nat.add_right_comm, Nat.add_assoc, hvisits, hrun, hstep, hnext, hmemory,
        List.range_succ, List.map_append]
      simp [runThreads]

/-- **A thread that does not succeed is the last one that is visited**, and it decides how the
threads end. -/
theorem visits_of_stop (h : ∀ k < n, endsIn body geometry m k = .ok ())
    (hstop : endsIn body geometry m n ≠ .ok ()) (rest : Nat) :
    visits body geometry (n + (rest + 1)) 0 m = (List.range (n + 1)).map geometry.thread ∧
      (runThreads body geometry (n + (rest + 1)) 0 m).1 = endsIn body geometry m n := by
  obtain ⟨hvisits, hrun⟩ := visits_of_ok h (rest + 1)
  obtain ⟨hlast, hend⟩ := step_of_stop hstop rest
  rw [hvisits, hrun, hlast, hend, List.range_succ, List.map_append]
  exact ⟨rfl, rfl⟩

end Emulated

/-! ### Launches on a device -/

namespace Launch

variable (l : Launch) (body : Kernel.Body) (m : Memory)

/-- A launch on a memory. -/
def run : Outcome Unit × Memory :=
  Emulated.runThreads (fun t => body t l.args) l.geometry l.geometry.count 0 m

/-- The threads for which a launch calls its body, in order. -/
def visited : List Thread :=
  Emulated.visits (fun t => body t l.args) l.geometry l.geometry.count 0 m

/-- How the body of a launch ends in the thread with a given number, in the memory that the threads
before it leave. -/
def ends (n : Nat) : Outcome Unit :=
  Emulated.endsIn (fun t => body t l.args) l.geometry m n

variable {l body m}

/-- The thread that is visited after `n` others computes the number `n`. -/
theorem globalLinear_visited (hcount : l.geometry.count < Word.bound) {n : Nat} {t : Thread}
    (h : (l.visited body m)[n]? = some t) : t.globalLinear = .ok n ∧ t.Inside l.geometry := by
  obtain ⟨rest, hrest⟩ := Emulated.visits_prefix (fun t => body t l.args) l.geometry
    l.geometry.count 0 m
  have hlist : ((List.range l.geometry.count).map l.geometry.thread)[n]? = some t := by
    rw [List.range_eq_range', ← hrest, List.getElem?_append_left]
    · exact h
    · exact (List.getElem?_eq_some_iff.1 h).1
  rw [List.getElem?_map, Option.map_eq_some_iff] at hlist
  obtain ⟨k, hk, rfl⟩ := hlist
  obtain ⟨hlt, heq⟩ := List.getElem?_eq_some_iff.1 hk
  rw [List.getElem_range] at heq
  subst heq
  rw [List.length_range] at hlt
  exact ⟨Geometry.globalLinear_thread hlt hcount, Geometry.inside_thread hlt⟩

/-- A launch whose body succeeds in every thread visits all of them. -/
theorem visited_of_ok (h : ∀ n < l.geometry.count, l.ends body m n = .ok ()) :
    (l.run body m).1 = .ok () ∧ l.visited body m = l.geometry.threads := by
  obtain ⟨hvisits, hrun⟩ := Emulated.visits_of_ok h 0
  unfold run visited
  rw [Nat.add_zero] at hvisits hrun
  rw [hvisits, hrun, Geometry.threads_eq]
  simp [Emulated.visits, Emulated.runThreads]

/-- A launch whose body does not succeed in a thread stops there. -/
theorem visited_of_stop {n : Nat} (hn : n < l.geometry.count)
    (h : ∀ k < n, l.ends body m k = .ok ()) (hstop : l.ends body m n ≠ .ok ()) :
    (l.run body m).1 = l.ends body m n ∧
      l.visited body m = l.geometry.threads.take (n + 1) := by
  obtain ⟨hvisits, hrun⟩ := Emulated.visits_of_stop h hstop (l.geometry.count - (n + 1))
  rw [show n + (l.geometry.count - (n + 1) + 1) = l.geometry.count by omega] at hvisits hrun
  unfold run visited
  rw [hvisits, Geometry.threads_eq, ← List.map_take, List.take_range, Nat.min_eq_left (by omega)]
  exact ⟨hrun, rfl⟩

end Launch

namespace Emulated

/-- A launch of a registered kernel does to the memory of a device what its threads do. -/
theorem runLaunch_of_body {d : Emulated} {l : Launch} {body : Kernel.Body}
    (h : d.body? l.kernel = some body) (v : Verbosity) :
    (runLaunch l v d).outcome = (l.run body d.memory).1 ∧
      (runLaunch l v d).state = { d with memory := (l.run body d.memory).2 } := by
  unfold runLaunch
  rw [Act.bind_of_ok rfl, Step.after_outcome, Step.after_state]
  simp only [Act.get_apply, h]
  exact ⟨rfl, rfl⟩

/-- **A launch visits every thread once, in order.**  The thread that is visited after `n` others
has the number `n`, and can compute it.  If the body succeeds in every thread, all threads of the
launch are visited; if it does not succeed in some thread, those up to the first such thread are.
The launch runs the body in the visited threads one after the other, and in no others: on a device
with the same memory, a body that does the same in the visited threads does the same to the device.
-/
theorem launch_covers_index_space {d : Emulated} {l : Launch} {body : Kernel.Body}
    (hbody : d.body? l.kernel = some body) {total : Nat}
    (htotal : l.geometry.totalThreads = .ok total) (v : Verbosity) :
    let visited := l.visited body d.memory
    let ends := l.ends body d.memory
    (∀ (n : Nat) (t : Thread), visited[n]? = some t →
        t.globalLinear = .ok n ∧ ∃ x, t.globalX = .ok x) ∧
      (l.geometry.IsEmpty → visited = []) ∧
      ((∀ n < total, ends n = .ok ()) →
        (runLaunch l v d).outcome = .ok () ∧ visited = l.geometry.threads ∧
          visited.length = total ∧ ∀ t, visited.count t = if t.Inside l.geometry then 1 else 0) ∧
      (∀ n < total, (∀ k < n, ends k = .ok ()) → ends n ≠ .ok () →
        (runLaunch l v d).outcome = ends n ∧ visited = l.geometry.threads.take (n + 1) ∧
          visited.length = n + 1) ∧
      ((runLaunch l v d).outcome = (runOver (fun t => body t l.args) visited d.memory).1 ∧
        (runLaunch l v d).state =
          { d with memory := (runOver (fun t => body t l.args) visited d.memory).2 }) ∧
      ∀ (d' : Emulated) (body' : Kernel.Body), d'.body? l.kernel = some body' →
        d'.memory = d.memory → (∀ t ∈ visited, body' t l.args = body t l.args) →
        (runLaunch l v d').outcome = (runLaunch l v d).outcome ∧
          (runLaunch l v d').state = { d' with memory := (runLaunch l v d).state.memory } := by
  intro visited ends
  obtain ⟨-, -, hcount, rfl⟩ := Geometry.totalThreads_eq_ok_iff.1 htotal
  have hlength : l.geometry.threads.length = l.geometry.count := by
    rw [Geometry.threads_eq, List.length_map, List.length_range]
  have hover : l.run body d.memory = runOver (fun t => body t l.args) visited d.memory :=
    runThreads_eq_runOver _ _ _ _ _
  refine ⟨?_, ?_, ?_, ?_, hover ▸ runLaunch_of_body hbody v, fun d' body' hbody' hmemory h => ?_⟩
  · intro n t ht
    obtain ⟨hnumber, hinside⟩ := Launch.globalLinear_visited hcount ht
    exact ⟨hnumber, Thread.exists_globalX hinside⟩
  · intro hempty
    have hzero := Geometry.count_of_isEmpty hempty
    change visits _ _ l.geometry.count 0 _ = []
    rw [hzero]
    rfl
  · intro hok
    obtain ⟨hrun, hvisited⟩ := Launch.visited_of_ok hok
    have hall : visited = l.geometry.threads := hvisited
    refine ⟨(runLaunch_of_body hbody v).1.trans hrun, hall, hall ▸ hlength, fun t => ?_⟩
    rw [hall, (Geometry.nodup_threads hcount).count]
    simp only [Geometry.mem_threads_iff]
  · intro n hn hok hstop
    obtain ⟨hrun, hvisited⟩ := Launch.visited_of_stop hn hok hstop
    have hfirst : visited = l.geometry.threads.take (n + 1) := hvisited
    refine ⟨(runLaunch_of_body hbody v).1.trans hrun, hfirst, ?_⟩
    rw [hfirst, List.length_take, hlength]
    omega
  · obtain ⟨houtcome, hstate⟩ := runLaunch_of_body hbody v
    obtain ⟨houtcome', hstate'⟩ := runLaunch_of_body hbody' v
    have hsame : l.run body' d.memory = l.run body d.memory := runThreads_congr h
    rw [houtcome', hstate', houtcome, hstate, hmemory, hsame]
    exact ⟨rfl, rfl⟩

/-- A kernel that fails in one thread. -/
def stumbling : Kernel.Body := fun thread _ => do
  let n ← Dialogue.ofOutcome thread.globalLinear
  if n = 7 then .fail (.invalidInput (.other "thread 7 failed")) else pure ()

/-- Four blocks of six threads each. -/
def smallLaunch : Launch :=
  ⟨"stumble", ⟨⟨2, 1, 2⟩, ⟨2, 3, 1⟩⟩, []⟩

/-- A launch that stops in its second block: the last of the eight threads that it visits is the
second one of that block. -/
theorem launch_stops_in_second_block :
    let d := new.register "stumble" stumbling
    let visited := smallLaunch.visited stumbling d.memory
    d.body? smallLaunch.kernel = some stumbling ∧
      smallLaunch.geometry.totalThreads = .ok 24 ∧
      (runLaunch smallLaunch .off d).outcome =
        .error (.invalidInput (.other "thread 7 failed")) ∧
      visited.length = 8 ∧ visited = smallLaunch.geometry.threads.take 8 ∧
      visited[7]? = some ⟨⟨2, 1, 2⟩, ⟨2, 3, 1⟩, ⟨1, 0, 0⟩, ⟨1, 0, 0⟩⟩ := by
  intro d visited
  have hbody : d.body? smallLaunch.kernel = some stumbling := rfl
  have htotal : smallLaunch.geometry.totalThreads = .ok 24 := by decide
  obtain ⟨-, -, -, hstop, -⟩ := launch_covers_index_space hbody htotal .off
  obtain ⟨houtcome, hvisited, hlength⟩ := hstop 7 (by decide) (by decide) (by decide)
  have htake : visited = smallLaunch.geometry.threads.take 8 := hvisited
  exact ⟨hbody, htotal, houtcome.trans (by decide), hlength, htake, by rw [htake]; decide⟩

end Emulated

end Offload
