/-
**The affine kernel unit.**

Each thread of an affine launch writes the element that its index along the first dimension names.
The launch runs its threads one after the other, and many of them may have the same index: a launch
in three dimensions goes through its indices again for every row and every plane.  What matters is
that new indices turn up in order.  So at any time the indices that have turned up are those below
some number, the elements below it are written and the rest is still poison, and if the array is too
short, the first element that does not fit is the one behind its end.

Main definitions:

* `Offload.Geometry.column`, `Offload.Geometry.columns` — the index of a thread along the first
  dimension, and the number of these indices;
* `Offload.Geometry.reach` — the indices that have turned up are those below it;
* `Offload.Reference.filled` — an array of which the first elements are written;
* `Offload.Reference.Ready` — a device on which the unit is refused nothing.

Main results:

* `Offload.Geometry.column_le_reach` — **new indices turn up in order**;
* `Offload.Geometry.reach_count` — a launch goes through all of them;
* `Offload.Reference.runThreads_affine` — what the threads leave, or where they stop;
* `Offload.Reference.affine_unit_fills_in_order` — **what the affine kernel unit returns**, for any
  geometry.
-/

import Offload.Proofs.Arrays
import Offload.Proofs.Diagnostics
import Offload.Proofs.Headroom
import Offload.Proofs.Isolation

set_option autoImplicit false

namespace Offload

/-! ### Indices along the first dimension -/

/-- One below a number that is no multiple has the next smaller remainder. -/
theorem pred_mod {a b : Nat} (hb : 0 < b) (h : 0 < a % b) : (a - 1) % b = a % b - 1 := by
  have hlt := Nat.mod_lt a hb
  have hsum : a / b * b + a % b = a := Nat.div_add_mod' ..
  have hpred : a - 1 = a / b * b + (a % b - 1) := by omega
  rw [hpred]
  exact (div_mod_of_lt (by omega)).2

/-- An extent with points has a row, which is no longer than the extent. -/
theorem Extent.pos_of_count {e : Extent} (h : 0 < e.count) :
    0 < e.x.toNat ∧ e.x.toNat ≤ e.count := by
  unfold count at h ⊢
  have hrows := Nat.pos_of_mul_pos_right h
  refine ⟨Nat.pos_of_mul_pos_right hrows, ?_⟩
  rw [Nat.mul_assoc] at h ⊢
  exact Nat.le_mul_of_pos_right _ (Nat.pos_of_mul_pos_left h)

namespace Geometry

variable {g : Geometry} {i n : Nat}

/-- The index along the first dimension of the thread with a given number. -/
def column (g : Geometry) (n : Nat) : Nat :=
  n / g.block.count % g.grid.x.toNat * g.block.x.toNat + n % g.block.count % g.block.x.toNat

/-- The number of indices along the first dimension; a launch without threads has none. -/
def columns (g : Geometry) : Nat :=
  if g.grid.y = 0 ∨ g.grid.z = 0 ∨ g.block.y = 0 ∨ g.block.z = 0 then 0
  else g.grid.x.toNat * g.block.x.toNat

/-- One more than the largest index of the first `n` threads. -/
def reach (g : Geometry) : Nat → Nat
  | 0 => 0
  | n + 1 => max (g.reach n) (g.column n + 1)

/-- A launch with threads has blocks in its grid and threads in its blocks. -/
theorem pos_of_count (h : 0 < g.count) :
    0 < g.grid.x.toNat ∧ 0 < g.block.x.toNat ∧ g.grid.x.toNat ≤ g.grid.count ∧
      g.block.x.toNat ≤ g.block.count := by
  obtain ⟨hgrid, hgrid_le⟩ := Extent.pos_of_count (Nat.pos_of_mul_pos_right h)
  obtain ⟨hblock, hblock_le⟩ := Extent.pos_of_count (Nat.pos_of_mul_pos_left h)
  exact ⟨hgrid, hblock, hgrid_le, hblock_le⟩

/-- A thread of a launch computes its index. -/
theorem globalX_thread (h : n < g.count) : (g.thread n).globalX = .ok (g.column n) := by
  obtain ⟨hgrid, hblock, -, -⟩ := pos_of_count (Nat.zero_lt_of_lt h)
  have hsize := g.grid.x.toNat_lt_size
  have hsize' := g.block.x.toNat_lt_size
  have hbx := Nat.mod_lt (n / g.block.count) hgrid
  have htx := Nat.mod_lt (n % g.block.count) hblock
  rw [Thread.globalX_eq (inside_thread h)]
  simp only [thread, Extent.point, column]
  rw [UInt32.toNat_ofNat_of_lt' (by omega), UInt32.toNat_ofNat_of_lt' (by omega)]

theorem column_lt (h : n < g.count) : g.column n < g.grid.x.toNat * g.block.x.toNat := by
  obtain ⟨hgrid, hblock, -, -⟩ := pos_of_count (Nat.zero_lt_of_lt h)
  have hbx := Nat.mod_lt (n / g.block.count) hgrid
  have htx := Nat.mod_lt (n % g.block.count) hblock
  have hle := Nat.mul_le_mul_right g.block.x.toNat hbx
  rw [Nat.succ_mul] at hle
  unfold column
  omega

/-- The thread with a place in a block of a given number. -/
theorem column_of_lt {q r : Nat} (h : r < g.block.count) :
    g.column (q * g.block.count + r) =
      q % g.grid.x.toNat * g.block.x.toNat + r % g.block.x.toNat := by
  obtain ⟨hdiv, hmod⟩ := div_mod_of_lt (q := q) h
  rw [column, hdiv, hmod]

/-- Every index is the one of some thread. -/
theorem exists_column (hcount : 0 < g.count) {x : Nat} (hx : x < g.grid.x.toNat * g.block.x.toNat) :
    ∃ n < g.count, g.column n = x := by
  obtain ⟨hgrid, hblock, hgrid_le, hblock_le⟩ := pos_of_count hcount
  have hdiv : x / g.block.x.toNat < g.grid.x.toNat := (Nat.div_lt_iff_lt_mul hblock).2 hx
  have hmod := Nat.mod_lt x hblock
  refine ⟨x / g.block.x.toNat * g.block.count + x % g.block.x.toNat, ?_, ?_⟩
  · have hle : (x / g.block.x.toNat + 1) * g.block.count ≤ g.count :=
      Nat.mul_le_mul_right _ (by omega)
    rw [Nat.succ_mul] at hle
    omega
  · rw [column_of_lt (by omega), Nat.mod_eq_of_lt hdiv, Nat.mod_mod, Nat.div_add_mod']

/-- Before a thread with an index other than zero there is one with the index before. -/
theorem exists_column_before (h : n < g.count) (hpos : 0 < g.column n) :
    ∃ i < n, g.column i + 1 = g.column n := by
  obtain ⟨hgrid, hblock, -, hblock_le⟩ := pos_of_count (Nat.zero_lt_of_lt h)
  -- the thread with the place `r` in the block with the number `q`
  obtain ⟨q, r, hr, rfl⟩ : ∃ q r, r < g.block.count ∧ n = q * g.block.count + r :=
    ⟨n / g.block.count, n % g.block.count, Nat.mod_lt n (by omega), (Nat.div_add_mod' ..).symm⟩
  rw [column_of_lt hr] at hpos ⊢
  by_cases hfirst : 0 < r % g.block.x.toNat
  · -- the thread before, in the same block
    have hle := Nat.mod_le r g.block.x.toNat
    refine ⟨q * g.block.count + (r - 1), by omega, ?_⟩
    rw [column_of_lt (by omega), pred_mod hblock hfirst]
    omega
  · -- the last thread in the first row of the block before
    have hzero : r % g.block.x.toNat = 0 := by omega
    have hindex : 0 < q % g.grid.x.toNat := by
      refine Nat.pos_of_ne_zero fun heq => ?_
      rw [heq, hzero, Nat.zero_mul] at hpos
      omega
    have hle := Nat.mod_le q g.grid.x.toNat
    have hblocks : (q - 1) * g.block.count + g.block.count = q * g.block.count := by
      rw [← Nat.succ_mul]
      congr 1
      omega
    have hindices : (q % g.grid.x.toNat - 1) * g.block.x.toNat + g.block.x.toNat =
        q % g.grid.x.toNat * g.block.x.toNat := by
      rw [← Nat.succ_mul]
      congr 1
      omega
    have hlast : (g.block.x.toNat - 1) % g.block.x.toNat = g.block.x.toNat - 1 :=
      Nat.mod_eq_of_lt (by omega)
    refine ⟨(q - 1) * g.block.count + (g.block.x.toNat - 1), by omega, ?_⟩
    rw [column_of_lt (by omega), pred_mod hgrid hindex, hlast, hzero]
    omega

theorem column_lt_reach (h : i < n) : g.column i < g.reach n := by
  induction n with
  | zero => omega
  | succ n ih =>
      rw [reach]
      rcases Nat.lt_succ_iff_lt_or_eq.1 h with hlt | rfl
      · have := ih hlt
        omega
      · omega

theorem reach_le {bound : Nat} (h : ∀ i < n, g.column i < bound) : g.reach n ≤ bound := by
  induction n with
  | zero => exact Nat.zero_le _
  | succ n ih =>
      have hprefix := ih fun i hi => h i (by omega)
      have hlast := h n (by omega)
      rw [reach]
      omega

/-- **New indices turn up in order**: a thread has an index that has turned up before, or the next
one. -/
theorem column_le_reach (h : n < g.count) : g.column n ≤ g.reach n := by
  by_cases hzero : g.column n = 0
  · omega
  · obtain ⟨i, hi, hnext⟩ := exists_column_before h (Nat.pos_of_ne_zero hzero)
    have := column_lt_reach (g := g) hi
    omega

/-- A launch with columns has threads. -/
theorem count_pos (h : 0 < g.columns) : 0 < g.count := by
  unfold columns at h
  split at h
  · omega
  · rename_i hsizes
    simp only [not_or, ← UInt32.toNat_inj, UInt32.toNat_zero] at hsizes
    obtain ⟨hgy, hgz, hby, hbz⟩ := hsizes
    have hgx := Nat.pos_of_mul_pos_right h
    have hbx := Nat.pos_of_mul_pos_left h
    have hgrid : 0 < g.grid.count :=
      Nat.mul_pos (Nat.mul_pos hgx (Nat.pos_of_ne_zero hgy)) (Nat.pos_of_ne_zero hgz)
    have hblock : 0 < g.block.count :=
      Nat.mul_pos (Nat.mul_pos hbx (Nat.pos_of_ne_zero hby)) (Nat.pos_of_ne_zero hbz)
    exact Nat.mul_pos hgrid hblock

/-- A launch with threads has as many columns as its rows are long. -/
theorem columns_eq (h : 0 < g.count) : g.columns = g.grid.x.toNat * g.block.x.toNat := by
  refine if_neg fun hsizes => ?_
  have hempty : g.IsEmpty := by
    rcases hsizes with hy | hz | hy | hz
    · exact Or.inl (Or.inr (Or.inl hy))
    · exact Or.inl (Or.inr (Or.inr hz))
    · exact Or.inr (Or.inr (Or.inl hy))
    · exact Or.inr (Or.inr (Or.inr hz))
  rw [count_of_isEmpty hempty] at h
  omega

/-- A launch goes through all indices. -/
theorem reach_count (g : Geometry) : g.reach g.count = g.columns := by
  by_cases hzero : g.count = 0
  · have hcolumns : g.columns = 0 := by
      refine Nat.eq_zero_of_not_pos fun hpos => ?_
      have := count_pos hpos
      omega
    rw [hzero, hcolumns, reach]
  · have hcount : 0 < g.count := Nat.pos_of_ne_zero hzero
    obtain ⟨hgrid, hblock, -, -⟩ := pos_of_count hcount
    have hpos := Nat.mul_pos hgrid hblock
    rw [columns_eq hcount]
    refine Nat.le_antisymm (reach_le fun i hi => column_lt hi) ?_
    -- the last index turns up
    obtain ⟨n, hn, hlast⟩ := exists_column (x := g.grid.x.toNat * g.block.x.toNat - 1) hcount
      (by omega)
    have hreach := column_lt_reach (g := g) hn
    omega

end Geometry

/-! ### Arrays that are filled from the front -/

namespace Reference

/-- The value of the affine function at an index, in rounded numbers. -/
def affineValue (env : AffineEnv) (i : Nat) : Binary32 :=
  (env.scale.mul (Binary32.ofNat i)).add env.offset

/-- An element that was never written: four bytes of poison. -/
def unwritten : Binary32 := ⟨0xcdcdcdcd⟩

/-- An array of which the first `k` elements are written. -/
def filled (env : AffineEnv) (length k : Nat) : List Binary32 :=
  (List.range length).map fun i => if i < k then affineValue env i else unwritten

variable {env : AffineEnv} {n k r x : Nat}

@[simp] theorem length_filled (env : AffineEnv) (n k : Nat) : (filled env n k).length = n := by
  simp [filled]

theorem getElem_filled {i : Nat} (h : i < (filled env n k).length) :
    (filled env n k)[i] = if i < k then affineValue env i else unwritten := by
  simp [filled]

theorem filled_zero (env : AffineEnv) (n : Nat) :
    filled env n 0 = List.replicate n unwritten := by
  simp [filled, List.map_const']

/-- An element that is written again stays as it is, and the next one is added. -/
theorem filled_set (hx : x ≤ r) (hcount : x < env.count.toNat) :
    (filled env n (min env.count.toNat r)).set x (affineValue env x) =
      filled env n (min env.count.toNat (max r (x + 1))) := by
  refine List.ext_getElem (by simp) fun i hi hi' => ?_
  rw [List.getElem_set, getElem_filled, getElem_filled]
  by_cases heq : x = i
  · subst heq
    rw [if_pos rfl, if_pos (by omega)]
  · rw [if_neg heq]
    congr 1
    rw [eq_iff_iff]
    omega

/-! ### The threads -/

/-- A memory in which the first `k` elements of an array of length `n` are written. -/
structure Filling (env : AffineEnv) (input output : Address) (n k : Nat) (m : Memory) : Prop where
  input : m.Holds input [env]
  output : m.Holds output (filled env n k)

variable {t : Thread} {m : Memory} {input output : Address}

/-- A thread looks at the environment and then writes its element, if it has one. -/
theorem run_affineIndex (henv : m.Holds input [env]) (hx : t.globalX = .ok x) :
    (affineIndex t [.pointer input, .pointer output]).run m =
      if x < env.count.toNat then (Kernel.write output x (affineValue env x)).run m
      else (.ok (), m) := by
  have hread : (Kernel.read input 0 : Kernel AffineEnv).run m = (.ok env, m) :=
    Kernel.run_read (henv.read (show 1 * 16 < Word.bound by decide) Nat.zero_lt_one)
  unfold affineIndex
  rw [hx]
  change Kernel.run ((Kernel.read input 0 : Kernel AffineEnv) >>= fun env =>
    if x < env.count.toNat then Kernel.write output x (affineValue env x) else pure ()) m = _
  rw [Kernel.run_bind_of_ok hread]
  split <;> rfl

/-- A thread whose index has turned up, or is the next one, keeps the array filled from the
front. -/
theorem Filling.step (h : Filling env input output n (min env.count.toNat r) m)
    (hne : input ≠ output) (hsmall : n * 4 < Word.bound) (hx : t.globalX = .ok x) (hle : x ≤ r)
    (hfits : env.count.toNat ≤ x ∨ x < n) :
    ∃ m', (affineIndex t [.pointer input, .pointer output]).run m = (.ok (), m') ∧
      Filling env input output n (min env.count.toNat (max r (x + 1))) m' := by
  rw [run_affineIndex h.input hx]
  by_cases hcount : x < env.count.toNat
  · have hlength : x < (filled env n (min env.count.toNat r)).length := by
      rw [length_filled]
      omega
    obtain ⟨m', hwrite, houtput, hothers⟩ :=
      h.output.write (by rw [length_filled]; exact hsmall) hlength (affineValue env x)
    rw [filled_set hle hcount] at houtput
    rw [if_pos hcount]
    exact ⟨m', Kernel.run_write hwrite, h.input.congr (hothers input hne), houtput⟩
  · have hsame : min env.count.toNat (max r (x + 1)) = min env.count.toNat r := by omega
    rw [if_neg hcount, hsame]
    exact ⟨m, rfl, h⟩

/-- A thread whose element is the one behind the end of the array fails. -/
theorem Filling.overflow (h : Filling env input output n k m) (hsmall : n * 4 + 4 < Word.bound)
    (hx : t.globalX = .ok n) (hcount : n < env.count.toNat) :
    (affineIndex t [.pointer input, .pointer output]).run m =
      (.error (.sizeMismatch (4 * (n + 1)) (4 * n)), m) := by
  have hstop : n * 4 + 4 = 4 * (n + 1) := by omega
  have hwrite : m.write output n (Pod.encode (affineValue env n)) =
      (.error (.sizeMismatch (n * 4 + 4) ((filled env n k).length * 4)), m) :=
    h.output.write_beyond (by decide) (Nat.le_of_eq (length_filled env n k)) hsmall _
  rw [length_filled, hstop, Nat.mul_comm n] at hwrite
  rw [run_affineIndex h.input hx, if_pos hcount, Kernel.run_write_of_error hwrite]

/-- **What the threads leave, or where they stop.**  The induction is on the threads that are left;
its invariant is that the first threads have filled the array up to their reach. -/
theorem runThreads_affine (g : Geometry) (hne : input ≠ output) (hsmall : n * 4 + 4 < Word.bound)
    (count first : Nat) (hthreads : first + count ≤ g.count)
    (hbefore : min env.count.toNat (g.reach first) ≤ n)
    (h : Filling env input output n (min env.count.toNat (g.reach first)) m) :
    let k := min env.count.toNat (g.reach (first + count))
    let run := Emulated.runThreads (fun t => affineIndex t [.pointer input, .pointer output]) g
      count first m
    (k ≤ n → ∃ m', run = (.ok (), m') ∧ Filling env input output n k m') ∧
      (n < k → run.1 = .error (.sizeMismatch (4 * (n + 1)) (4 * n))) := by
  induction count generalizing first m with
  | zero =>
      dsimp only
      rw [Nat.add_zero]
      exact ⟨fun _ => ⟨m, rfl, h⟩, fun hlt => by omega⟩
  | succ count ih =>
      have hx := Geometry.globalX_thread (g := g) (n := first) (by omega)
      have hle := Geometry.column_le_reach (g := g) (n := first) (by omega)
      have hnext : first + (count + 1) = first + 1 + count := by omega
      dsimp only
      rw [hnext, Emulated.runThreads]
      by_cases hfits : env.count.toNat ≤ g.column first ∨ g.column first < n
      · obtain ⟨m', hrun, hfilling⟩ := h.step hne (by omega) hx hle hfits
        rw [hrun]
        refine ih (first + 1) (by omega) ?_ hfilling
        rw [Geometry.reach]
        omega
      · -- the index is the next one, and it is the length of the array
        have hend : g.column first = n := by omega
        have hlast := Geometry.column_lt_reach (g := g) (i := first) (n := first + 1 + count)
          (by omega)
        rw [h.overflow hsmall (hend ▸ hx) (by omega)]
        exact ⟨fun hk => absurd hk (by omega), fun _ => rfl⟩

/-! ### The unit in a session -/

/-- The affine kernel as a unit of any size. -/
def affine (geometry : Geometry) (n : Nat) : KernelUnit AffineEnv Binary32 :=
  ⟨affineName, geometry, n⟩

/-- A device on which an affine unit with `n` results is refused nothing. -/
structure Ready (d : Emulated) (n : Nat) : Prop where
  willing : d.Willing
  kernel : d.body? affineName = some affineIndex
  queue : d.pending = []
  results : n ≠ 0
  small : n * 4 ≤ Memory.largestBuffer
  room : d.frontier + Memory.reserve 16 + Memory.reserve (n * 4) < Word.bound

theorem Ready.fits {d : Emulated} (h : Ready d n) (g : Geometry) : (affine g n).Fits d.memory where
  environment := by decide
  environment_le := by decide
  results := by
    have := h.results
    change n * 4 ≠ 0
    omega
  results_le := h.small
  room := h.room

section Serves

variable {τ : Type} {config : Config} {v : Verbosity} {w : Workspace Emulated τ} {d : Emulated}
  {tracked : List Allocation}

/-- The threads of an affine unit fill its results from the front, or stop behind their end. -/
theorem threads_affine (hserves : w.Serves config d.kernels d.memory [] tracked) (h : Ready d n)
    (g : Geometry) (env : AffineEnv) :
    let k := min env.count.toNat g.columns
    let threads := (affine g n).threads affineIndex env d.memory
    (k ≤ n → ∃ m', threads = (.ok (), m') ∧
        m'.Holds (KernelUnit.output AffineEnv d.memory) (filled env n k)) ∧
      (n < k → threads.1 = .error (.sizeMismatch (4 * (n + 1)) (4 * n))) := by
  intro k threads
  have hfits := h.fits g
  have hsmall : n * 4 + 4 < Word.bound := by
    have hbound : Memory.largestBuffer + 4 < Word.bound := by decide
    have := h.small
    omega
  -- before the first thread nothing is written
  have hbegin : Filling env (KernelUnit.input d.memory) (KernelUnit.output AffineEnv d.memory) n
      (min env.count.toNat (g.reach 0)) ((affine g n).staged env d.memory) := by
    refine ⟨KernelUnit.holds_input hserves _ env, ?_⟩
    rw [Geometry.reach, Nat.min_zero, filled_zero]
    exact KernelUnit.holds_output hserves hfits env (by decide)
  obtain ⟨hfilled, hstopped⟩ := runThreads_affine g hfits.input_ne_output hsmall g.count 0
    (by omega) (by rw [Geometry.reach]; omega) hbegin
  rw [Nat.zero_add, Geometry.reach_count] at hfilled hstopped
  refine ⟨fun hk => ?_, hstopped⟩
  obtain ⟨m', hrun, hfilling⟩ := hfilled hk
  exact ⟨m', hrun, hfilling.output⟩

variable {g : Geometry} (hserves : w.Serves config d.kernels d.memory [] tracked) (h : Ready d n)
  (hthreads : config.debug = true → v.admits .info = true → ∃ total, g.totalThreads = .ok total)

include hserves h hthreads

/-- With room for every element that the threads write, the unit returns them, and poison behind
them. -/
theorem affine_yields (hk : min env.count.toNat g.columns ≤ n) :
    ∃ w₁ w₂, ((affine g n).launch env).Yields v w
        ⟨KernelUnit.output AffineEnv d.memory, n⟩ w₁ ∧
      (Program.download ⟨KernelUnit.output AffineEnv d.memory, n⟩).Yields v w₁
        (filled env n (min env.count.toNat g.columns)) w₂ := by
  obtain ⟨m', hrun, hresults⟩ := (threads_affine hserves h g env).1 hk
  obtain ⟨w₁, w₂, hlaunch, hdownload, -⟩ := KernelUnit.invoke_of_holds (v := v) hserves (h.fits g)
    h.kernel hthreads hrun hresults (length_filled _ _ _)
  exact ⟨w₁, w₂, hlaunch, hdownload⟩

theorem affine_of_overflow (hk : n < min env.count.toNat g.columns) :
    (((affine g n).launch env).perform v w).outcome =
      .error (.sizeMismatch (4 * (n + 1)) (4 * n)) :=
  KernelUnit.launch_of_error hserves (h.fits g) h.kernel hthreads
    ((threads_affine hserves h g env).2 hk)

end Serves

/-- The unit of the affine job has an index for every element, and threads that can be counted. -/
theorem affineUnit_eq (count : UInt32) :
    ∃ g, affineUnit count = affine g count.toNat ∧ count.toNat ≤ g.columns ∧
      ∃ total, g.totalThreads = .ok total := by
  obtain ⟨blocks, hblocks⟩ : ∃ blocks, blocks = max ((count.toNat + 255) / 256) 1 := ⟨_, rfl⟩
  have hcount := count.toNat_lt_size
  have hsize : 1 < UInt32.size := by decide
  have hbound : UInt32.size * 256 < Word.bound := by decide
  have hle : blocks ≤ UInt32.size := by omega
  have hall : blocks * 256 < Word.bound :=
    Nat.lt_of_le_of_lt (Nat.mul_le_mul_right 256 hle) hbound
  have hx : (UInt32.ofNat blocks).toNat = blocks := UInt32.toNat_ofNat_of_lt' (by omega)
  have hgrid : (Extent.line (UInt32.ofNat blocks)).count = blocks := by
    change (UInt32.ofNat blocks).toNat * 1 * 1 = _
    rw [hx, Nat.mul_one, Nat.mul_one]
  have hblock : (Extent.line 256).count = 256 := by decide
  have hcolumns : Geometry.columns ⟨.line (UInt32.ofNat blocks), .line 256⟩ = blocks * 256 := by
    change (UInt32.ofNat blocks).toNat * 256 = _
    rw [hx]
  have hthreads : Geometry.count ⟨.line (UInt32.ofNat blocks), .line 256⟩ = blocks * 256 := by
    rw [Geometry.count, hgrid, hblock]
  refine ⟨⟨.line (UInt32.ofNat blocks), .line 256⟩, ?_, ?_, blocks * 256,
    Geometry.totalThreads_eq_ok_iff.2 ⟨?_, ?_, ?_, hthreads.symm⟩⟩
  · rw [hblocks]
    rfl
  · rw [hcolumns]
    omega
  · rw [hgrid]
    omega
  · rw [hblock]
    decide
  · rw [hthreads]
    exact hall

/-- An array with room for all of its elements is written to its end. -/
theorem filled_self (env : AffineEnv) (n : Nat) :
    filled env n n = (List.range n).map (affineValue env) := by
  refine List.map_congr_left fun i hi => ?_
  rw [if_pos (List.mem_range.1 hi)]

/-- **The affine job writes every element**, wherever its buffers lie. -/
theorem affine_script_yields {τ : Type} {config : Config} {v : Verbosity}
    {w : Workspace Emulated τ} {d : Emulated} {tracked : List Allocation} (env : AffineEnv)
    (hserves : w.Serves config d.kernels d.memory [] tracked) (h : Ready d env.count.toNat) :
    ∃ w', Program.Yields (affineJob.script env) v w
      ((List.range env.count.toNat).map (affineValue env)) w' := by
  obtain ⟨g, hunit, hcolumns, hthreads⟩ := affineUnit_eq env.count
  have hall : min env.count.toNat g.columns = env.count.toNat := Nat.min_eq_left hcolumns
  obtain ⟨w₁, w₂, hlaunch, hdownload⟩ := affine_yields (v := v) hserves h (fun _ _ => hthreads)
    (Nat.le_of_eq hall)
  rw [hall, filled_self] at hdownload
  rw [← hunit] at hlaunch
  have hjob : Program.Yields (affineJob.launch (env, none)) v w
      (env, some ⟨KernelUnit.output AffineEnv d.memory, env.count.toNat⟩) w₁ :=
    hlaunch.bind (Program.yields_pure _)
  exact ⟨w₂, (Program.yields_pure _).bind (hjob.bind hdownload)⟩

/-! ### What the affine unit returns -/

/-- **What the affine kernel unit returns**, in every state of a session and for any geometry.  Its
threads have `k` indices that the environment asks for.  If there is room for them, the first `k`
results are the values of the function and the rest is poison; if not, the unit fails with the size
that the next element would need.  A debugging session that cannot count the threads panics instead,
if important events are kept: otherwise it does not count them.  The unit of the affine job has an
index for every element, so the job returns them all. -/
theorem affine_unit_fills_in_order {τ : Type} {d : Emulated} (hd : d.Reachable) (config : Config)
    (t : τ) (v : Verbosity) (qs : List (Request τ)) (env : AffineEnv) :
    let w := Workspace.after v qs ⟨Session.start d config, t⟩
    (∀ geometry n, Ready w.session.device n →
      let result := (((affine geometry n).invoke env).perform v w).outcome
      let k := min env.count.toNat geometry.columns
      ((config.debug = true → v.admits .info = true →
          ∃ total, geometry.totalThreads = .ok total) →
        (k ≤ n → result = .ok ((List.range n).map fun i =>
          if i < k then affineValue env i else ⟨0xcdcdcdcd⟩)) ∧
        (n < k → result = .error (.sizeMismatch (4 * (n + 1)) (4 * n)))) ∧
      (config.debug = true → v.admits .info = true →
        (∀ total, geometry.totalThreads ≠ .ok total) → result = .panic .mulOverflow)) ∧
    (Ready w.session.device env.count.toNat →
      ((affineJob.script env).perform v w).outcome =
        .ok ((List.range env.count.toNat).map (affineValue env)) ∧
      ∀ (other : Config) (watch : Stopwatch), other.deviceOrdinal < w.session.device.deviceCount →
        ∃ report, (run other watch affineJob env v (w.session.device, t)).outcome = .ok report ∧
          report.error = .success ∧ report.failure = none ∧
          report.output = some ((List.range env.count.toNat).map (affineValue env))) := by
  intro w
  have hleads := Workspace.leads_after v qs ⟨Session.start d config, t⟩
  have hordered : w.session.device.Ordered := hleads.ordered hd.ordered
  have hserves : ∀ n, Ready w.session.device n →
      w.Serves config w.session.device.kernels w.session.device.memory [] w.session.tracked := by
    intro n h
    exact ⟨h.willing, ⟨d, _, hd.ordered, Workspace.agrees_after hd.ordered v qs
        (Session.agrees_start hd.ordered config)⟩,
      Session.config_after hd.ordered config t v qs, rfl, rfl, h.queue, rfl⟩
  refine ⟨fun geometry n h => ⟨fun hthreads => ⟨fun hk => ?_, fun hk => ?_⟩, ?_⟩, fun h => ⟨?_, ?_⟩⟩
  · obtain ⟨w₁, w₂, hlaunch, hdownload⟩ := affine_yields (v := v) (hserves n h) h hthreads hk
    exact (hlaunch.bind hdownload).1
  · have hfailed := affine_of_overflow (v := v) (hserves n h) h hthreads hk
    rw [KernelUnit.invoke, Program.perform_bind, Act.bind_of_error hfailed]
  · intro hdebug hkept huncounted
    rcases geometry.totalThreads_cases with ⟨total, hcounted⟩ | hpanic
    · exact absurd hcounted (huncounted total)
    · have hpanicked := KernelUnit.launch_of_uncounted (v := v) (hserves n h) (h.fits geometry)
        hdebug hkept hpanic env
      rw [KernelUnit.invoke, Program.perform_bind, Act.bind_of_panic hpanicked]
  · obtain ⟨w', hyields⟩ := affine_script_yields (v := v) env (hserves _ h) h
    exact hyields.1
  · intro other watch hpresent
    have hfaults := h.willing.faults
    have hselect : (w.session.device.faults.select ||
        w.session.device.deviceCount ≤ other.deviceOrdinal) = false := by
      rw [hfaults]
      simpa using hpresent
    have hreset : w.session.device.faults.reset = none := by
      rw [hfaults]
    have hfree : w.session.device.faults.free = none := by
      rw [hfaults]
    have hsetup : (Run.setup other v w.session.device).outcome = .ok () := by
      rw [Run.setup_of_able hselect hreset v]
    obtain ⟨w', hscript, -⟩ := affine_script_yields (v := v) env
      (Run.serves_opening hselect hreset v hordered hfaults h.willing.capacity t) h
    obtain ⟨report, hrun, herror, hfailure, houtput, -⟩ :=
      Run.run_of_script_ok hordered hfree hsetup affineJob env t hscript watch
    exact ⟨report, hrun, herror, hfailure, houtput⟩

/-- A device with the reference kernels, ready for a session. -/
def prepared : Emulated :=
  Emulated.after .off [.call (.select 0), .call .reset] device

/-- Four indices in eight threads, of which the environment asks for all: with room for five
elements one is left as it was, and with room for three the fourth does not fit. -/
theorem affine_unit_fills_four :
    let w : Workspace Emulated Unit := ⟨Session.start prepared {}, ()⟩
    let env : AffineEnv := { scale := ⟨0x40000000⟩, offset := ⟨0x3f800000⟩, count := 9 }
    let geometry : Geometry := ⟨.line 2, ⟨2, 2, 2⟩⟩
    Ready prepared 5 ∧ Ready prepared 3 ∧
      (((affine geometry 5).invoke env).perform .off w).outcome =
        .ok [affineValue env 0, affineValue env 1, affineValue env 2, affineValue env 3,
          ⟨0xcdcdcdcd⟩] ∧
      (((affine geometry 3).invoke env).perform .off w).outcome =
        .error (.sizeMismatch 16 12) := by
  intro w env geometry
  have hwilling : prepared.Willing := ⟨rfl, rfl, rfl⟩
  have hfive : Ready prepared 5 := ⟨hwilling, rfl, rfl, by decide, by decide, by decide +kernel⟩
  have hthree : Ready prepared 3 := ⟨hwilling, rfl, rfl, by decide, by decide, by decide +kernel⟩
  have hd : prepared.Reachable := reachable_device.after .off _
  obtain ⟨hunits, -⟩ := affine_unit_fills_in_order hd {} () .off [] env
  have hcolumns : min env.count.toNat geometry.columns = 4 := by decide
  have hquiet : ({} : Config).debug = true → Verbosity.off.admits .info = true →
      ∃ total, geometry.totalThreads = .ok total := fun h => absurd h Bool.false_ne_true
  obtain ⟨hfilled, -⟩ := (hunits geometry 5 hfive).1 hquiet
  obtain ⟨-, hstopped⟩ := (hunits geometry 3 hthree).1 hquiet
  rw [hcolumns] at hfilled hstopped
  refine ⟨hfive, hthree, (hfilled (by decide)).trans ?_, hstopped (by decide)⟩
  simp [List.range_succ]

/-- A debugging session counts the threads of a launch without any, and panics, if important events
are kept. -/
theorem debugging_a_vast_block :
    let w : Workspace Emulated Unit := ⟨Session.start prepared { debug := true }, ()⟩
    let env : AffineEnv := { scale := ⟨0x40000000⟩, offset := ⟨0x3f800000⟩, count := 3 }
    let geometry : Geometry := ⟨⟨0, 1, 1⟩, ⟨0xffffffff, 0xffffffff, 2⟩⟩
    let result := fun v => (((affine geometry 1).invoke env).perform v w).outcome
    geometry.columns = 0 ∧ result ⟨some .info⟩ = .panic .mulOverflow ∧
      result ⟨some .warn⟩ = .ok [⟨0xcdcdcdcd⟩] := by
  decide +kernel

end Reference

end Offload
