/-
**Arrays in device memory.**

A buffer holds an array if its bytes are those of the elements, one after the other.  Seen like
this, a kernel that writes an element of an array replaces one element of a list, and one that
writes behind its end is refused and told both sizes.  A kernel unit begins with an array of poison,
and what its threads leave in the place of the results is what it returns.

Main definitions:

* `Offload.Memory.Holds` — the buffer at an address holds an array.

Main results:

* `Offload.Memory.Holds.read`, `Offload.Memory.Holds.write`, `Offload.Memory.Holds.write_beyond` —
  the accesses of a kernel, element by element;
* `Offload.KernelUnit.holds_input`, `Offload.KernelUnit.holds_output` — what the threads of a unit
  find;
* `Offload.KernelUnit.invoke_of_holds` — **a kernel unit returns the array that its threads leave**.
-/

import Offload.Proofs.KernelUnits

set_option autoImplicit false

namespace Offload

/-! ### The bytes of an array -/

namespace Pod

variable {α : Type} [Pod α]

theorem encodeAll_cons (a : α) (l : List α) : encodeAll (a :: l) = encode a ++ encodeAll l := rfl

/-- The place of an element behind the first one. -/
theorem succ_mul_width (a : α) (i : Nat) : (i + 1) * width α = (encode a).length + i * width α := by
  rw [length_encode, Nat.succ_mul, Nat.add_comm]

/-- The bytes of an element lie where its number says. -/
theorem take_drop_encodeAll (l : List α) {i : Nat} (h : i < l.length) :
    ((encodeAll l).drop (i * width α)).take (width α) = encode l[i] := by
  induction l generalizing i with
  | nil => simp at h
  | cons a l ih =>
      cases i with
      | zero =>
          rw [encodeAll_cons, Nat.zero_mul, List.drop_zero, List.getElem_cons_zero,
            List.take_left' (length_encode a)]
      | succ i =>
          rw [encodeAll_cons, succ_mul_width a, List.drop_length_add_append, List.getElem_cons_succ]
          exact ih (by simpa using h)

/-- Replacing an element replaces its bytes. -/
theorem encodeAll_set (l : List α) {i : Nat} (h : i < l.length) (a : α) :
    encodeAll (l.set i a) = (encodeAll l).take (i * width α) ++ encode a ++
      (encodeAll l).drop (i * width α + width α) := by
  induction l generalizing i with
  | nil => simp at h
  | cons b l ih =>
      cases i with
      | zero =>
          rw [List.set_cons_zero, encodeAll_cons, encodeAll_cons, Nat.zero_mul, Nat.zero_add,
            List.take_zero, List.nil_append, List.drop_left' (length_encode b)]
      | succ i =>
          rw [List.set_cons_succ, encodeAll_cons, encodeAll_cons, succ_mul_width b, Nat.add_assoc,
            List.take_length_add_append, List.drop_length_add_append,
            ih (by simpa using h), List.append_assoc, List.append_assoc, List.append_assoc]

/-- An array of elements without structure is one run of bytes. -/
theorem encodeAll_replicate {a : α} {byte : UInt8} (h : encode a = List.replicate (width α) byte)
    (n : Nat) : encodeAll (List.replicate n a) = List.replicate (n * width α) byte := by
  induction n with
  | zero =>
      rw [Nat.zero_mul]
      rfl
  | succ n ih =>
      rw [List.replicate_succ, encodeAll_cons, ih, h, List.replicate_append_replicate, Nat.succ_mul,
        Nat.add_comm]

end Pod

/-! ### Arrays in memory -/

namespace Memory

variable {α : Type} [Pod α] {m m' : Memory} {address : Address} {l : List α} {i : Nat}

/-- The buffer at an address holds an array. -/
def Holds (m : Memory) (address : Address) (l : List α) : Prop :=
  ∃ b, m.find? address = some b ∧ b.bytes.toList = Pod.encodeAll l

theorem Holds.congr (h : m.Holds address l) (hfind : m'.find? address = m.find? address) :
    m'.Holds address l := by
  obtain ⟨b, hb, hbytes⟩ := h
  exact ⟨b, hfind.trans hb, hbytes⟩

theorem size_of_toList {bytes : Array UInt8} (h : bytes.toList = Pod.encodeAll l) :
    bytes.size = l.length * Pod.width α := by
  rw [← Array.length_toList, h, Pod.length_encodeAll]

/-- An element that is there ends inside the array. -/
theorem stop_le (hi : i < l.length) : i * Pod.width α + Pod.width α ≤ l.length * Pod.width α := by
  rw [← Nat.succ_mul]
  exact Nat.mul_le_mul_right _ hi

/-- An element of an array can be read. -/
theorem Holds.read (h : m.Holds address l) (hsmall : l.length * Pod.width α < Word.bound)
    (hi : i < l.length) : m.read address (Pod.width α) i = .ok (Pod.encode l[i]) := by
  obtain ⟨b, hfind, hbytes⟩ := h
  have hsize := size_of_toList hbytes
  rw [read_of_find? hfind (by rw [hsize]; exact stop_le hi) (by rw [hsize]; exact hsmall),
    ← Pod.take_drop_encodeAll l hi, ← hbytes]
  simp [List.extract_eq_take_drop]

/-- An element of an array can be written, and nothing else changes. -/
theorem Holds.write (h : m.Holds address l) (hsmall : l.length * Pod.width α < Word.bound)
    (hi : i < l.length) (a : α) :
    ∃ m', m.write address i (Pod.encode a) = (.ok (), m') ∧ m'.Holds address (l.set i a) ∧
      ∀ other, other ≠ address → m'.find? other = m.find? other := by
  obtain ⟨b, hfind, hbytes⟩ := h
  have hsize := size_of_toList hbytes
  have hstop := stop_le hi
  have hwrite : m.write address i (Pod.encode a) = (.ok (), m.update address fun buffer =>
      splice buffer (i * (Pod.encode a).length) (Pod.encode a)) :=
    write_of_find? hfind (by rw [Pod.length_encode, hsize]; exact hstop)
      (by rw [hsize]; exact hsmall)
  refine ⟨_, hwrite, ⟨_, find?_update_self hfind _, ?_⟩, fun other hne => ?_⟩
  · rw [Pod.length_encode, toList_splice (by rw [Pod.length_encode, hsize]; exact hstop),
      Pod.length_encode, hbytes, Pod.encodeAll_set l hi]
  · exact find?_update_of_ne hne.symm _

/-- An element behind the end of an array is refused, with the size that it would need and the one
that is there. -/
theorem Holds.write_beyond (h : m.Holds address l) (hwidth : 0 < Pod.width α)
    (hi : l.length ≤ i) (hplace : i * Pod.width α + Pod.width α < Word.bound) (a : α) :
    m.write address i (Pod.encode a) =
      (.error (.sizeMismatch (i * Pod.width α + Pod.width α) (l.length * Pod.width α)), m) := by
  obtain ⟨b, hfind, hbytes⟩ := h
  have hsize := size_of_toList hbytes
  have hbeyond : l.length * Pod.width α < i * Pod.width α + Pod.width α := by
    have hle := Nat.mul_le_mul_right (Pod.width α) hi
    omega
  refine write_of_error hfind ?_
  rw [Pod.length_encode, hsize]
  exact offset_of_beyond hbeyond hplace

end Memory

/-! ### Arrays of a kernel unit -/

namespace KernelUnit

variable {τ ε ρ : Type} [Pod ε] [Pod ρ] {u : KernelUnit ε ρ} {env : ε} {config : Config}
  {kernels : List (String × Kernel.Body)} {v : Verbosity} {w : Workspace Emulated τ}
  {m ran : Memory} {queue : List Launch} {tracked : List Allocation} {body : Kernel.Body}

/-- The threads of a unit find its environment. -/
theorem holds_input (h : w.Serves config kernels m queue tracked) (u : KernelUnit ε ρ) (env : ε) :
    (u.staged env m).Holds (input m) [env] :=
  ⟨_, find?_input h u env, (List.append_nil _).symm⟩

/-- The threads of a unit find an array of poison in the place of its results. -/
theorem holds_output (h : w.Serves config kernels m queue tracked) (hfits : u.Fits m) (env : ε)
    {a : ρ} (ha : Pod.encode a = List.replicate (Pod.width ρ) Memory.poison) :
    (u.staged env m).Holds (output ε m) (List.replicate u.count a) := by
  refine ⟨_, find?_output h hfits env, ?_⟩
  rw [Array.toList_replicate, Pod.encodeAll_replicate ha]

/-- **A kernel unit returns the array that its threads leave** in the place of its results. -/
theorem invoke_of_holds (h : w.Serves config kernels m [] tracked) (hfits : u.Fits m)
    (hbody : kernels.lookup u.kernel = some body)
    (hthreads : config.debug = true → v.admits .info = true →
      ∃ n, u.geometry.totalThreads = .ok n)
    (hrun : u.threads body env m = (.ok (), ran)) {results : List ρ}
    (hresults : ran.Holds (output ε m) results) (hlength : results.length = u.count) :
    ∃ w₁ w₂, (u.launch env).Yields v w ⟨output ε m, u.count⟩ w₁ ∧
      (Program.download ⟨output ε m, u.count⟩).Yields v w₁ results w₂ ∧
      w₂.session.tracked = tracked ++ [⟨output ε m, u.count * Pod.width ρ⟩] := by
  obtain ⟨w₁, hlaunch, h₁⟩ := launch_yields (v := v) h hfits hbody hthreads hrun
  obtain ⟨b, hfind, hbytes⟩ := hresults
  have hsize : b.bytes.size = u.count * Pod.width ρ := by
    rw [Memory.size_of_toList hbytes, hlength]
  obtain ⟨w₂, hdownload, h₂⟩ := h₁.download (v := v) (s := ⟨output ε m, u.count⟩)
    ((Memory.find?_without hfits.input_ne_output).trans hfind) hsize
    (by rw [hsize]; exact hfits.results_le)
  have hdecode : Pod.decodeAll u.count b.bytes.toList = results := by
    rw [hbytes, ← hlength, Pod.decodeAll_encodeAll]
  rw [hdecode] at hdownload
  exact ⟨w₁, w₂, hlaunch, hdownload, h₂.tracked⟩

end KernelUnit

end Offload
