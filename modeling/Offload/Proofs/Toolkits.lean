/-
**The newest of the installed toolkits.**

Versions of the toolkit are installed side by side, each in a directory such as `v12.4`.  What
stands between the letter and the first point is the major version, and the name carries no version
at all if that is no number.  The minor version is more forgiving: it counts as zero if it is
missing or malformed.

The newest version is found in one pass that keeps the newest one so far, so the result is among the
directories and no other one is newer.  Versions are compared as pairs of numbers: `v10.0` is newer
than `v9.2`, although the text comes first.  As long as no two directories carry the same version,
the order in which they are listed makes no difference.

Main definitions:

* `Offload.Toolchain.Versioned` — a name carries a version;
* `Offload.Toolchain.IsToolkit` — a name carries some version;
* `Offload.Toolchain.Tops` — the newest of the toolkits seen so far.

Main results:

* `Offload.Toolchain.version?_eq_some_iff` — a version is read off the names that carry it;
* `Offload.Toolchain.Tops.step`, `Offload.Toolchain.Tops.run` — one directory, and all of them;
* `Offload.Toolchain.newest_is_found` — **the newest toolkit is found, in any order**.
-/

import Mathlib.Data.List.Nodup
import Mathlib.Data.Prod.Lex
import Offload.Proofs.Numerals
import Offload.Proofs.Pieces
import Offload.Toolchain.Toolkit

set_option autoImplicit false

namespace Offload.Toolchain

/-! ### Versions in names -/

/-- A part of a version: a numeral for a number of 32 bits. -/
def IsPart (cs : List Char) (n : Nat) : Prop :=
  Text.Numeral.Counts cs n ∧ n < UInt32.size

theorem versionPart?_eq_some_iff {cs : List Char} {n : Nat} :
    versionPart? (String.ofList cs) = some n ↔ IsPart cs n := by
  have hread : versionPart? (String.ofList cs) = some n ↔
      Text.Numeral.natural (UInt32.size - 1) (String.ofList cs) = .ok n := by
    unfold versionPart?
    cases Text.Numeral.natural (UInt32.size - 1) (String.ofList cs) <;> simp [Except.toOption]
  have hlimit : n ≤ UInt32.size - 1 ↔ n < UInt32.size := Nat.le_sub_one_iff_lt (by decide)
  rw [hread, Text.Numeral.natural_eq_ok_iff, String.toList_ofList, hlimit]
  rfl

theorem versionPart?_eq_none_iff {cs : List Char} :
    versionPart? (String.ofList cs) = none ↔ ∀ n, ¬ IsPart cs n := by
  simp only [← versionPart?_eq_some_iff]
  exact Option.eq_none_iff_forall_ne_some

/-- The minor version in what follows the first point, cut at the other points. -/
inductive Minor : List (List Char) → Nat → Prop
  | missing : Minor [] 0
  | given {piece : List Char} {more : List (List Char)} {n : Nat} (h : IsPart piece n) :
      Minor (piece :: more) n
  | malformed {piece : List Char} {more : List (List Char)} (h : ∀ n, ¬ IsPart piece n) :
      Minor (piece :: more) 0

theorem minor_iff {more : List (List Char)} {n : Nat} :
    Minor more n ↔ (((more.map String.ofList).head?).bind versionPart?).getD 0 = n := by
  cases more with
  | nil =>
      constructor
      · rintro ⟨⟩
        rfl
      · rintro rfl
        exact .missing
  | cons piece more =>
      rw [List.map_cons, List.head?_cons, Option.bind_some]
      constructor
      · intro h
        cases h with
        | given h => rw [versionPart?_eq_some_iff.2 h, Option.getD_some]
        | malformed h => rw [versionPart?_eq_none_iff.2 h, Option.getD_none]
      · rintro rfl
        cases hpart : versionPart? (String.ofList piece) with
        | none => exact .malformed (versionPart?_eq_none_iff.1 hpart)
        | some n => exact .given (versionPart?_eq_some_iff.1 hpart)

/-- A name is the letter of a version with a text behind it, which is cut at its points. -/
def Dotted (name : String) (major : List Char) (more : List (List Char)) : Prop :=
  ∃ rest : String, name = "v" ++ rest ∧ Text.Cut (fun c => c = '.') rest.toList (major :: more)

/-- A name carries a version. -/
def Versioned (name : String) (v : Nat × Nat) : Prop :=
  ∃ major more, Dotted name major more ∧ IsPart major v.1 ∧ Minor more v.2

/-- A name carries some version: between its letter and its first point there is a number. -/
def IsToolkit (name : String) : Prop :=
  ∃ major more n, Dotted name major more ∧ IsPart major n

/-- The minor version never stands in the way. -/
theorem isToolkit_iff {name : String} : IsToolkit name ↔ ∃ v, Versioned name v := by
  constructor
  · rintro ⟨major, more, n, hdotted, hmajor⟩
    exact ⟨(n, _), major, more, hdotted, hmajor, minor_iff.2 rfl⟩
  · rintro ⟨v, major, more, hdotted, hmajor, -⟩
    exact ⟨major, more, v.1, hdotted, hmajor⟩

/-- **A version is read off the names that carry it**, and off no other ones. -/
theorem version?_eq_some_iff {name : String} {v : Nat × Nat} :
    version? name = some v ↔ Versioned name v := by
  unfold version?
  simp only [Option.bind_eq_bind, Option.bind_eq_some_iff, Text.withoutPrefix?_eq_some_iff]
  constructor
  · rintro ⟨rest, hname, h⟩
    cases hcut : rest.toList.splitOnP fun c => c = '.' with
    | nil =>
        rw [hcut] at h
        cases h
    | cons major more =>
        rw [hcut, List.map_cons] at h
        obtain ⟨n, hmajor, hv⟩ := Option.bind_eq_some_iff.1 h
        cases hv
        exact ⟨major, more, ⟨rest, hname, Text.cut_iff.2 hcut.symm⟩,
          versionPart?_eq_some_iff.1 hmajor, minor_iff.2 rfl⟩
  · rintro ⟨major, more, ⟨rest, hname, hcut⟩, hmajor, hminor⟩
    refine ⟨rest, hname, ?_⟩
    rw [← Text.cut_iff.1 hcut, List.map_cons]
    refine Option.bind_eq_some_iff.2 ⟨v.1, versionPart?_eq_some_iff.2 hmajor, ?_⟩
    rw [minor_iff.1 hminor]

/-! ### The newest of some toolkits -/

/-- Versions are compared by the major one first. -/
theorem versionLe_iff {a b : Nat × Nat} : versionLe a b = true ↔ toLex a ≤ toLex b := by
  simp [versionLe, Prod.Lex.toLex_le_toLex]

/-- The newest of the toolkits seen so far, if there were any. -/
def Tops (seen : List ((Nat × Nat) × String)) : Option ((Nat × Nat) × String) → Prop
  | none => seen = []
  | some best => best ∈ seen ∧ ∀ entry ∈ seen, toLex entry.1 ≤ toLex best.1

theorem tops_nil : Tops [] none := rfl

section Tops

variable {seen : List ((Nat × Nat) × String)} {best : Option ((Nat × Nat) × String)}

/-- **One more directory**: the newer one of it and the newest so far is the newest. -/
theorem Tops.step (h : Tops seen best) (entry : (Nat × Nat) × String) :
    Tops (seen ++ [entry]) (newer best entry) := by
  cases best with
  | none =>
      obtain rfl : seen = [] := h
      exact ⟨List.mem_singleton_self entry, fun e he => le_of_eq (by rw [List.mem_singleton.1 he])⟩
  | some old =>
      obtain ⟨hmem, hle⟩ := h
      rw [newer]
      split
      · rename_i hnew
        refine ⟨List.mem_append_right _ (List.mem_singleton_self entry), fun e he => ?_⟩
        rcases List.mem_append.1 he with he | he
        · exact (hle e he).trans (versionLe_iff.1 hnew)
        · rw [List.mem_singleton.1 he]
      · rename_i hold
        rw [versionLe_iff, not_le] at hold
        refine ⟨List.mem_append_left _ hmem, fun e he => ?_⟩
        rcases List.mem_append.1 he with he | he
        · exact hle e he
        · rw [List.mem_singleton.1 he]
          exact hold.le

/-- **All directories**, one after the other. -/
theorem Tops.run (h : Tops seen best) (entries : List ((Nat × Nat) × String)) :
    Tops (seen ++ entries) (entries.foldl newer best) := by
  induction entries generalizing seen best with
  | nil => rwa [List.append_nil]
  | cons entry entries ih =>
      have hrest := ih (h.step entry)
      rwa [List.append_assoc] at hrest

/-- Where no version is repeated there is one newest toolkit, in whatever order they are seen. -/
theorem Tops.unique {seen' : List ((Nat × Nat) × String)} {best' : Option ((Nat × Nat) × String)}
    (h : Tops seen best) (h' : Tops seen' best') (hperm : seen'.Perm seen)
    (hnodup : (seen.map Prod.fst).Nodup) : best' = best := by
  cases best with
  | none =>
      obtain rfl : seen = [] := h
      obtain rfl : seen' = [] := hperm.eq_nil
      cases best' with
      | none => rfl
      | some b => exact absurd h'.1 List.not_mem_nil
  | some b =>
      cases best' with
      | none =>
          obtain rfl : seen' = [] := h'
          exact absurd (hperm.symm.subset h.1) List.not_mem_nil
      | some b' =>
          have hmem : b' ∈ seen := hperm.subset h'.1
          have hversion : b'.1 = b.1 :=
            toLex.injective (le_antisymm (h.2 b' hmem) (h'.2 b (hperm.symm.subset h.1)))
          rw [List.inj_on_of_nodup_map hnodup hmem h.1 hversion]

end Tops

/-! ### Directories -/

/-- The toolkits among some directories, with their versions. -/
def installed (names : List String) : List ((Nat × Nat) × String) :=
  names.filterMap fun name => (version? name).map fun v => (v, name)

theorem newestToolkit?_eq (names : List String) :
    newestToolkit? names =
      ((installed names).foldl newer none).map fun best => toolkitRoot ++ "/" ++ best.2 :=
  rfl

theorem tops_installed (names : List String) :
    Tops (installed names) ((installed names).foldl newer none) :=
  tops_nil.run (installed names)

theorem mem_installed_iff {names : List String} {entry : (Nat × Nat) × String} :
    entry ∈ installed names ↔ entry.2 ∈ names ∧ Versioned entry.2 entry.1 := by
  unfold installed
  simp only [List.mem_filterMap, Option.map_eq_some_iff, version?_eq_some_iff]
  constructor
  · rintro ⟨name, hname, v, hv, rfl⟩
    exact ⟨hname, hv⟩
  · rintro ⟨hname, hv⟩
    exact ⟨entry.2, hname, entry.1, hv, rfl⟩

theorem installed_eq_nil_iff {names : List String} :
    installed names = [] ↔ ∀ name ∈ names, ¬ IsToolkit name := by
  rw [List.eq_nil_iff_forall_not_mem]
  constructor
  · intro h name hname htoolkit
    obtain ⟨v, hv⟩ := isToolkit_iff.1 htoolkit
    exact h (v, name) (mem_installed_iff.2 ⟨hname, hv⟩)
  · intro h entry hentry
    obtain ⟨hname, hv⟩ := mem_installed_iff.1 hentry
    exact h entry.2 hname (isToolkit_iff.2 ⟨entry.1, hv⟩)

/-- No two directories carry the same version. -/
def Distinct (names : List String) : Prop :=
  names.Pairwise fun a b => ∀ v w, Versioned a v → Versioned b w → v ≠ w

theorem distinct_iff {names : List String} :
    Distinct names ↔ (names.filterMap version?).Nodup := by
  rw [List.Nodup, List.pairwise_filterMap]
  simp only [version?_eq_some_iff]
  constructor
  · exact List.Pairwise.imp fun h v hv w hw => h v w hv hw
  · exact List.Pairwise.imp fun h v w hv hw => h v hv w hw

theorem map_fst_installed (names : List String) :
    (installed names).map Prod.fst = names.filterMap version? := by
  unfold installed
  rw [List.map_filterMap]
  congr 1
  funext name
  cases version? name <;> rfl

/-- **The newest toolkit is found, in any order.**  Nothing is found iff no directory has the name
of a toolkit.  Otherwise it is one of the directories, below the root, and no version of another one
is greater, compared as pairs of numbers.  If no two directories carry the same version, every order
of the directories gives the same result. -/
theorem newest_is_found (names : List String) :
    (newestToolkit? names = none ↔ ∀ name ∈ names, ¬ IsToolkit name) ∧
      ((∃ name ∈ names, IsToolkit name) →
        ∃ name ∈ names, ∃ v, Versioned name v ∧
          newestToolkit? names = some (toolkitRoot ++ "/" ++ name) ∧
          ∀ other ∈ names, ∀ w, Versioned other w → toLex w ≤ toLex v) ∧
      (Distinct names → ∀ listed, listed.Perm names →
        newestToolkit? listed = newestToolkit? names) := by
  have htops := tops_installed names
  refine ⟨?_, ?_, ?_⟩
  · rw [newestToolkit?_eq, Option.map_eq_none_iff, ← installed_eq_nil_iff]
    cases hbest : (installed names).foldl newer none with
    | none =>
        rw [hbest] at htops
        exact iff_of_true rfl htops
    | some best =>
        rw [hbest] at htops
        exact iff_of_false nofun (List.ne_nil_of_mem htops.1)
  · rintro ⟨name, hname, htoolkit⟩
    cases hbest : (installed names).foldl newer none with
    | none =>
        rw [hbest] at htops
        exact absurd htoolkit (installed_eq_nil_iff.1 htops name hname)
    | some best =>
        rw [hbest] at htops
        obtain ⟨hmem, hle⟩ := htops
        obtain ⟨hlisted, hversion⟩ := mem_installed_iff.1 hmem
        refine ⟨best.2, hlisted, best.1, hversion, ?_, fun other hother w hw => ?_⟩
        · rw [newestToolkit?_eq, hbest, Option.map_some]
        · exact hle (w, other) (mem_installed_iff.2 ⟨hother, hw⟩)
  · intro hdistinct listed hperm
    have hnodup : ((installed names).map Prod.fst).Nodup := by
      rw [map_fst_installed]
      exact distinct_iff.1 hdistinct
    rw [newestToolkit?_eq, newestToolkit?_eq,
      Tops.unique htops (tops_installed listed) (hperm.filterMap _) hnodup]

/-- Two digits of the major version come before one, a malformed minor version counts as zero, and
a malformed major version does not count at all.  Listed from behind, the directories give the same
result. -/
theorem newest_past_version_nine :
    let names := ["v9.2", "v10.1", "tools", "v+10.x", "vx.11"]
    Distinct names ∧ ¬ IsToolkit "vx.11" ∧ Versioned "v+10.x" (10, 0) ∧
      newestToolkit? names.reverse = some (toolkitRoot ++ "/v10.1") ∧
      ∃ name ∈ names, ∃ v, Versioned name v ∧
        newestToolkit? names = some (toolkitRoot ++ "/" ++ name) ∧ toLex (9, 2) ≤ toLex v := by
  intro names
  have hdistinct : Distinct names := distinct_iff.2 (by decide +kernel)
  have hnine : Versioned "v9.2" (9, 2) := version?_eq_some_iff.1 (by decide +kernel)
  have hmalformed : ∀ name ∈ ["vx.11"], ¬ IsToolkit name :=
    (newest_is_found ["vx.11"]).1.1 (by decide +kernel)
  obtain ⟨-, hfound, hperm⟩ := newest_is_found names
  obtain ⟨name, hname, v, hv, hnewest, hle⟩ :=
    hfound ⟨"v9.2", List.mem_cons_self, isToolkit_iff.2 ⟨_, hnine⟩⟩
  refine ⟨hdistinct, hmalformed _ List.mem_cons_self, version?_eq_some_iff.1 (by decide +kernel),
    ?_, name, hname, v, hv, hnewest, hle _ List.mem_cons_self _ hnine⟩
  rw [hperm hdistinct names.reverse names.reverse_perm]
  decide +kernel

end Offload.Toolchain
