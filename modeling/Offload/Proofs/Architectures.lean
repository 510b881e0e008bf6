/-
**Which architecture is compiled for.**

A compute capability has a major and a minor version, and four spellings: `89`, `8.9`, `sm_89` and
`compute_89`.  The two names keep the whole number.  Of the two numbers only the first two digits
count, so the four spellings agree as long as the major version has one digit; from version ten on
the numbers lose their minor version, and later versions are mistaken for earlier ones.

An environment may ask for an architecture with a list or with a single entry.  The list goes first
and the default last.  A list that is set hides the single entry, though, also when it names no
architecture at all.

Main definitions:

* `Offload.Toolchain.Capability`, `Offload.Toolchain.Spelling` — compute capabilities and the ways
  to spell them;
* `Offload.Toolchain.Listed` — the architecture that a list names first;
* `Offload.Toolchain.Promised` — the architecture that an environment should lead to;
* `Offload.Toolchain.Hidden` — a single entry behind a list that names nothing.

Main results:

* `Offload.Toolchain.spellings_agree_up_to_nine` — **what each spelling of a capability stands
  for**;
* `Offload.Toolchain.firstArch?_eq_some_iff` — the first entry that names an architecture;
* `Offload.Toolchain.promised_unless_hidden` — **the architecture that is selected**.
-/

import Offload.Proofs.Pieces
import Offload.Toolchain.Arch

set_option autoImplicit false

namespace Offload.Toolchain

/-! ### Capabilities and their spellings -/

/-- A compute capability; its minor version has one digit. -/
structure Capability where
  major : Nat
  minor : Nat
  minor_lt : minor < 10

/-- The ways to spell a compute capability. -/
inductive Spelling where
  /-- The digits of the major and of the minor version: `89`. -/
  | number
  /-- The two versions with a point between them: `8.9`. -/
  | version
  /-- The name of a real architecture: `sm_89`. -/
  | real
  /-- The name of a virtual architecture: `compute_89`. -/
  | virtual
deriving DecidableEq, Repr

namespace Capability

/-- The digits of a capability. -/
def digits (c : Capability) : String :=
  toString c.major ++ toString c.minor

/-- The name of the virtual architecture, which the compiler wants. -/
def target (c : Capability) : String :=
  "compute_" ++ c.digits

/-- The text of a spelling. -/
def spelled (c : Capability) : Spelling → String
  | .number => c.digits
  | .version => toString c.major ++ "." ++ toString c.minor
  | .real => "sm_" ++ c.digits
  | .virtual => c.target

variable (c : Capability)

theorem toList_toString (n : Nat) : (toString n).toList = Nat.toDigits 10 n := by
  rw [Nat.toString_eq_ofList_toDigits, String.toList_ofList]

theorem isDigit_of_mem_toString {n : Nat} {d : Char} (h : d ∈ (toString n).toList) :
    d.isDigit = true := by
  rw [toList_toString] at h
  exact Nat.isDigit_of_mem_toDigits (by decide) (by decide) h

/-- There are at least two digits, and no more iff the major version has one. -/
theorem length_digits :
    2 ≤ c.digits.toList.length ∧ (c.digits.toList.length ≤ 2 ↔ c.major < 10) := by
  have hminor : (toString c.minor).toList.length = 1 := by
    rw [toList_toString, Nat.toDigits_of_lt_base c.minor_lt]
    rfl
  have hpos : 0 < (Nat.toDigits 10 c.major).length := Nat.length_toDigits_pos
  have hmajor := @Nat.length_toDigits_le_iff 10 c.major 1 (by decide) (by decide)
  rw [digits, String.toList_append, List.length_append, hminor, toList_toString]
  omega

theorem isWord_digits : Text.IsWord c.digits :=
  (Text.isWord_of_isDigit fun _ => isDigit_of_mem_toString).append
    (Text.isWord_of_isDigit fun _ => isDigit_of_mem_toString)

theorem isWord_spelled (s : Spelling) : Text.IsWord (c.spelled s) := by
  cases s with
  | number => exact c.isWord_digits
  | version =>
      have hmajor : Text.IsWord (toString c.major) :=
        Text.isWord_of_isDigit fun _ => isDigit_of_mem_toString
      exact (hmajor.append (by decide +kernel)).append
        (Text.isWord_of_isDigit fun _ => isDigit_of_mem_toString)
  | real => exact Text.IsWord.append (by decide +kernel) c.isWord_digits
  | virtual => exact Text.IsWord.append (by decide +kernel) c.isWord_digits

/-- The digits in the text of a number. -/
theorem filter_isDigit_spelled {s : Spelling} (hs : s = .number ∨ s = .version) :
    (c.spelled s).toList.filter Char.isDigit = c.digits.toList := by
  have hself : ∀ n : Nat, (toString n).toList.filter Char.isDigit = (toString n).toList := fun n =>
    List.filter_eq_self.2 fun _ => isDigit_of_mem_toString
  have hpoint : ".".toList.filter Char.isDigit = [] := by decide +kernel
  rcases hs with rfl | rfl
  · simp only [spelled, digits, String.toList_append, List.filter_append, hself]
  · simp only [spelled, digits, String.toList_append, List.filter_append, hself, hpoint,
      List.append_nil]

/-- A number has no letters. -/
theorem not_mem_spelled {s : Spelling} (hs : s = .number ∨ s = .version) {d : Char}
    (hdigit : d.isDigit = false) (hpoint : d ≠ '.') : d ∉ (c.spelled s).toList := by
  have hnumber : ∀ n : Nat, d ∉ (toString n).toList := by
    intro n hd
    rw [isDigit_of_mem_toString hd] at hdigit
    cases hdigit
  have hmark : d ∉ ".".toList := fun hd => hpoint (List.mem_singleton.1 hd)
  rcases hs with rfl | rfl <;>
    simp only [spelled, digits, String.toList_append, List.mem_append, hnumber, hmark, or_self,
      not_false_eq_true]

end Capability

/-! ### What a spelling stands for -/

section Normalize

variable {s before after : String}

/-- Blanks around a word make no difference. -/
theorem normalizeArch_padded (hbefore : ∀ d ∈ before.toList, Text.isBlank d = true)
    (hs : Text.IsWord s) (hafter : ∀ d ∈ after.toList, Text.isBlank d = true) :
    normalizeArch (before ++ s ++ after) = normalizeArch s := by
  unfold normalizeArch
  rw [Text.trim_padded hbefore hs hafter, Text.trim_of_isWord hs]

/-- The name of a real architecture is turned into the one of the virtual architecture with the same
number. -/
theorem normalizeArch_real {rest : String} (h : Text.trim s = "sm_" ++ rest) :
    normalizeArch s = "compute_" ++ rest := by
  unfold normalizeArch
  simp only [h, Text.withoutPrefix?_append]

/-- The name of a virtual architecture stays. -/
theorem normalizeArch_virtual {rest : String} (h : Text.trim s = "compute_" ++ rest) :
    normalizeArch s = "compute_" ++ rest := by
  have hreal : Text.withoutPrefix? "sm_" ("compute_" ++ rest) = none := by
    cases hsm : Text.withoutPrefix? "sm_" ("compute_" ++ rest) with
    | none => rfl
    | some more =>
        have hhead := congrArg (fun t => t.toList.head?) (Text.withoutPrefix?_eq_some_iff.1 hsm)
        simp at hhead
  unfold normalizeArch
  simp only [h, hreal, Text.withoutPrefix?_append, Option.isSome_some, if_true]

/-- Of any other text the first two digits count. -/
theorem normalizeArch_number (hreal : Text.withoutPrefix? "sm_" (Text.trim s) = none)
    (hvirtual : Text.withoutPrefix? "compute_" (Text.trim s) = none)
    (hdigits : 2 ≤ ((Text.trim s).toList.filter Char.isDigit).length) :
    normalizeArch s =
      "compute_" ++ String.ofList (((Text.trim s).toList.filter Char.isDigit).take 2) := by
  unfold normalizeArch
  simp only [hreal, hvirtual, Option.isSome_none, Bool.false_eq_true, if_false]
  rcases hlist : (Text.trim s).toList.filter Char.isDigit with _ | ⟨a, _ | ⟨b, rest⟩⟩
  · rw [hlist] at hdigits
    cases hdigits
  · rw [hlist] at hdigits
    cases Nat.le_of_succ_le_succ hdigits
  · rfl

end Normalize

namespace Capability

variable (c : Capability)

theorem trim_spelled (s : Spelling) : Text.trim (c.spelled s) = c.spelled s :=
  Text.trim_of_isWord (c.isWord_spelled s)

theorem normalizeArch_spelled_name {s : Spelling} (hs : s = .real ∨ s = .virtual) :
    normalizeArch (c.spelled s) = c.target := by
  rcases hs with rfl | rfl
  · exact normalizeArch_real (c.trim_spelled .real)
  · exact normalizeArch_virtual (c.trim_spelled .virtual)

theorem normalizeArch_spelled_number {s : Spelling} (hs : s = .number ∨ s = .version) :
    normalizeArch (c.spelled s) = "compute_" ++ String.ofList (c.digits.toList.take 2) := by
  have hfilter := c.filter_isDigit_spelled hs
  have hletter : ∀ start : String, 'm' ∈ start.toList →
      Text.withoutPrefix? start (Text.trim (c.spelled s)) = none := by
    intro start hstart
    rw [trim_spelled]
    exact Text.withoutPrefix?_eq_none hstart (c.not_mem_spelled hs (by decide) (by decide))
  have hlength := c.length_digits.1
  rw [← hfilter] at hlength ⊢
  rw [← c.trim_spelled s] at hlength
  rw [normalizeArch_number (hletter "sm_" (by decide +kernel))
    (hletter "compute_" (by decide +kernel)) hlength, trim_spelled]

/-- The first two digits are all digits iff the major version has one. -/
theorem take_digits_eq_target_iff :
    "compute_" ++ String.ofList (c.digits.toList.take 2) = c.target ↔ c.major < 10 := by
  rw [target, ← c.length_digits.2, ← String.toList_inj, String.toList_append, String.toList_append,
    List.append_cancel_left_eq, String.toList_ofList]
  constructor
  · intro htake
    rw [← htake]
    exact List.length_take_le _ _
  · exact List.take_of_length_le

end Capability

/-- **What each spelling of a capability stands for**, with any blanks around it.  The names stand
for the whole number.  The numbers stand for their first two digits, so all four spellings agree iff
the major version has one digit. -/
theorem spellings_agree_up_to_nine (c : Capability) (before after : String)
    (hbefore : ∀ d ∈ before.toList, Text.isBlank d = true)
    (hafter : ∀ d ∈ after.toList, Text.isBlank d = true) :
    (∀ s, s = .real ∨ s = .virtual →
        normalizeArch (before ++ c.spelled s ++ after) = c.target) ∧
      (∀ s, s = .number ∨ s = .version →
        normalizeArch (before ++ c.spelled s ++ after) =
          "compute_" ++ String.ofList (c.digits.toList.take 2)) ∧
      ((∀ s, normalizeArch (before ++ c.spelled s ++ after) = c.target) ↔ c.major < 10) := by
  have hpadded : ∀ s, normalizeArch (before ++ c.spelled s ++ after) =
      normalizeArch (c.spelled s) := fun s =>
    normalizeArch_padded hbefore (c.isWord_spelled s) hafter
  simp only [hpadded]
  refine ⟨fun s hs => c.normalizeArch_spelled_name hs,
    fun s hs => c.normalizeArch_spelled_number hs, ?_⟩
  rw [← c.take_digits_eq_target_iff]
  constructor
  · intro hall
    rw [← c.normalizeArch_spelled_number (.inl rfl)]
    exact hall .number
  · intro htake s
    cases s with
    | number => exact (c.normalizeArch_spelled_number (.inl rfl)).trans htake
    | version => exact (c.normalizeArch_spelled_number (.inr rfl)).trans htake
    | real => exact c.normalizeArch_spelled_name (.inl rfl)
    | virtual => exact c.normalizeArch_spelled_name (.inr rfl)

/-- With one digit for the major version, all spellings agree, also between a line break and a wide
blank. -/
theorem spellings_of_nine_agree :
    let c : Capability := ⟨9, 0, by decide⟩
    c.target = "compute_90" ∧
      ∀ s, normalizeArch ("\n" ++ c.spelled s ++ "\u3000") = "compute_90" := by
  intro c
  have htarget : c.target = "compute_90" := by decide +kernel
  obtain ⟨-, -, hagree⟩ := spellings_agree_up_to_nine c "\n" "\u3000"
    (List.all_eq_true.1 (by decide +kernel)) (List.all_eq_true.1 (by decide +kernel))
  rw [← htarget]
  exact ⟨rfl, hagree.2 (by decide)⟩

/-- Version ten is mistaken for an architecture `compute_10`, unless it is named in full. -/
theorem spellings_of_ten_differ :
    let c : Capability := ⟨10, 0, by decide⟩
    c.target = "compute_100" ∧ normalizeArch (c.spelled .real) = "compute_100" ∧
      normalizeArch (c.spelled .version) = "compute_10" ∧
      ¬ ∀ s, normalizeArch (c.spelled s) = c.target :=
  ⟨by decide +kernel, by decide +kernel, by decide +kernel,
    fun hall => absurd (hall .version) (by decide +kernel)⟩

/-! ### The architecture that is selected -/

/-- The architecture that a list names first: that of its first entry that names one. -/
def Listed (list arch : String) : Prop :=
  ∃ earlier entry later,
    Text.Cut separatesArchs list.toList (earlier ++ entry :: later) ∧
      (∀ e ∈ earlier, normalizeArch (String.ofList e) = "") ∧
      normalizeArch (String.ofList entry) = arch ∧ arch ≠ ""

/-- **The first entry that names an architecture is found.** -/
theorem firstArch?_eq_some_iff {list arch : String} :
    firstArch? list = some arch ↔ Listed list arch := by
  unfold firstArch?
  rw [List.map_map, List.find?_map, Option.map_eq_some_iff]
  simp only [List.find?_eq_some_iff_append, Function.comp_apply, decide_eq_true_eq,
    Bool.not_eq_true', decide_eq_false_iff_not, ne_eq, Decidable.not_not]
  constructor
  · rintro ⟨entry, ⟨hentry, earlier, later, hsplit, hearlier⟩, harch⟩
    exact ⟨earlier, entry, later, Text.cut_iff.2 hsplit.symm, hearlier, harch, harch ▸ hentry⟩
  · rintro ⟨earlier, entry, later, hcut, hearlier, harch, hne⟩
    exact ⟨entry, ⟨harch ▸ hne, earlier, later, (Text.cut_iff.1 hcut).symm, hearlier⟩, harch⟩

theorem firstArch?_eq_none_iff {list : String} :
    firstArch? list = none ↔ ∀ a, ¬ Listed list a := by
  simp only [← firstArch?_eq_some_iff]
  exact Option.eq_none_iff_forall_ne_some

/-- A list that names no architecture, or none at all. -/
def Unlisted (archs : Option String) : Prop :=
  ∀ list, archs = some list → ∀ a, ¬ Listed list a

/-- The architecture that a list and a single entry should lead to: the one that the list names
first, else the one of the single entry, else the default. -/
inductive Promised (archs arch : Option String) : String → Prop
  | listed {list a : String} (hlist : archs = some list) (h : Listed list a) : Promised archs arch a
  | single {text : String} (hlist : Unlisted archs) (htext : arch = some text)
      (h : normalizeArch text ≠ "") : Promised archs arch (normalizeArch text)
  | default (hlist : Unlisted archs)
      (htext : ∀ text, arch = some text → normalizeArch text = "") :
      Promised archs arch defaultArch

/-- A single entry asks for an architecture that is not the default, behind a list that is set but
names none. -/
def Hidden (archs arch : Option String) : Prop :=
  (∃ list, archs = some list ∧ ∀ a, ¬ Listed list a) ∧
    ∃ text, arch = some text ∧ normalizeArch text ≠ "" ∧ normalizeArch text ≠ defaultArch

/-- The architecture of a single entry, or the default. -/
def singleArch (arch : Option String) : String :=
  ((arch.map normalizeArch).filter fun a => a ≠ "").getD defaultArch

section Select

variable {archs arch : Option String} {list a b : String}

/-- A single entry that names an architecture is taken, and any other one is passed over. -/
theorem singleArch_cases (arch : Option String) :
    (∃ text, arch = some text ∧ normalizeArch text ≠ "" ∧ singleArch arch = normalizeArch text) ∨
      ((∀ text, arch = some text → normalizeArch text = "") ∧ singleArch arch = defaultArch) := by
  cases arch with
  | none => exact .inr ⟨nofun, rfl⟩
  | some text =>
      by_cases h : normalizeArch text = ""
      · refine .inr ⟨?_, ?_⟩
        · rintro _ ⟨⟩
          exact h
        · simp [singleArch, Option.filter, h]
      · exact .inl ⟨text, rfl, h, by simp [singleArch, Option.filter, h]⟩

theorem singleArch_ne_empty (arch : Option String) : singleArch arch ≠ "" := by
  rcases singleArch_cases arch with ⟨text, -, hne, hsingle⟩ | ⟨-, hsingle⟩
  · rwa [hsingle]
  · rw [hsingle]
    decide +kernel

theorem singleArch_ne_defaultArch_iff :
    singleArch arch ≠ defaultArch ↔
      ∃ text, arch = some text ∧ normalizeArch text ≠ "" ∧ normalizeArch text ≠ defaultArch := by
  rcases singleArch_cases arch with ⟨text, rfl, hne, hsingle⟩ | ⟨hempty, hsingle⟩
  · simp [hsingle, hne]
  · constructor
    · intro h
      exact absurd hsingle h
    · rintro ⟨text, htext, hne, -⟩
      exact absurd (hempty text htext) hne

theorem ne_empty_of_listed (h : Listed list a) : a ≠ "" := by
  obtain ⟨-, -, -, -, -, -, hne⟩ := h
  exact hne

theorem listed_unique (ha : Listed list a) (hb : Listed list b) : b = a := by
  rw [← firstArch?_eq_some_iff] at ha hb
  exact Option.some.inj (hb.symm.trans ha)

theorem unlisted_some (h : ∀ a, ¬ Listed list a) : Unlisted (some list) := by
  rintro _ ⟨⟩
  exact h

theorem promised_iff_of_listed (hlist : archs = some list) (ha : Listed list a) :
    Promised archs arch b ↔ b = a := by
  constructor
  · intro h
    cases h with
    | listed hlist' hb =>
        cases hlist.symm.trans hlist'
        exact listed_unique ha hb
    | single hun => exact absurd ha (hun list hlist a)
    | default hun => exact absurd ha (hun list hlist a)
  · rintro rfl
    exact .listed hlist ha

theorem not_hidden_of_listed (hlist : archs = some list) (ha : Listed list a) :
    ¬ Hidden archs arch := by
  rintro ⟨⟨list', hlist', hun⟩, -⟩
  cases hlist.symm.trans hlist'
  exact hun a ha

theorem promised_iff_of_unlisted (hun : Unlisted archs) :
    Promised archs arch b ↔ b = singleArch arch := by
  rcases singleArch_cases arch with ⟨text, htext, hne, hsingle⟩ | ⟨hempty, hsingle⟩
  · rw [hsingle]
    constructor
    · intro h
      cases h with
      | listed hlist hb => exact absurd hb (hun _ hlist _)
      | single _ htext' _ =>
          cases htext.symm.trans htext'
          rfl
      | default _ hempty => exact absurd (hempty text htext) hne
    · intro hb
      rw [hb]
      exact .single hun htext hne
  · rw [hsingle]
    constructor
    · intro h
      cases h with
      | listed hlist hb => exact absurd hb (hun _ hlist _)
      | single _ htext hne => exact absurd (hempty _ htext) hne
      | default => rfl
    · intro hb
      rw [hb]
      exact .default hun hempty

theorem selectArch_of_unset {env : Env} (h : env "CUDA_ARCHS" = none) :
    selectArch env = singleArch (env "CUDA_ARCH") := by
  unfold selectArch requestedArch?
  rw [h]
  rfl

theorem selectArch_of_listed {env : Env} (hlist : env "CUDA_ARCHS" = some list)
    (ha : Listed list a) : selectArch env = a := by
  unfold selectArch requestedArch?
  rw [hlist]
  simp [Option.filter, firstArch?_eq_some_iff.2 ha, ne_empty_of_listed ha]

theorem selectArch_of_unlisted {env : Env} (hlist : env "CUDA_ARCHS" = some list)
    (hun : ∀ a, ¬ Listed list a) : selectArch env = defaultArch := by
  unfold selectArch requestedArch?
  rw [hlist]
  simp [firstArch?_eq_none_iff.2 hun]

end Select

/-- **The architecture that is selected.**  Every environment promises exactly one architecture.
That one is selected, unless a single entry is hidden behind a list that names none; then it is the
default.  In no case is it empty. -/
theorem promised_unless_hidden (env : Env) :
    let archs := env "CUDA_ARCHS"
    let arch := env "CUDA_ARCH"
    (∃ a, ∀ b, Promised archs arch b ↔ b = a) ∧
      (Promised archs arch (selectArch env) ↔ ¬ Hidden archs arch) ∧
      (Hidden archs arch → selectArch env = defaultArch) ∧ selectArch env ≠ "" := by
  intro archs arch
  cases harchs : archs with
  | none =>
      have hpromised : ∀ b, Promised none arch b ↔ b = singleArch arch := fun b =>
        promised_iff_of_unlisted nofun
      have hvisible : ¬ Hidden none arch := by
        rintro ⟨⟨list, ⟨⟩, -⟩, -⟩
      have hselect : selectArch env = singleArch arch := selectArch_of_unset harchs
      rw [hselect]
      exact ⟨⟨_, hpromised⟩, iff_of_true ((hpromised _).2 rfl) hvisible, fun h => absurd h hvisible,
        singleArch_ne_empty arch⟩
  | some list =>
      by_cases hlisted : ∃ a, Listed list a
      · obtain ⟨a, ha⟩ := hlisted
        have hpromised : ∀ b, Promised (some list) arch b ↔ b = a := fun b =>
          promised_iff_of_listed rfl ha
        have hvisible : ¬ Hidden (some list) arch := not_hidden_of_listed rfl ha
        have hne : a ≠ "" := ne_empty_of_listed ha
        rw [selectArch_of_listed harchs ha]
        exact ⟨⟨_, hpromised⟩, iff_of_true ((hpromised _).2 rfl) hvisible,
          fun h => absurd h hvisible, hne⟩
      · have hun : ∀ a, ¬ Listed list a := not_exists.1 hlisted
        have hpromised : ∀ b, Promised (some list) arch b ↔ b = singleArch arch := fun b =>
          promised_iff_of_unlisted (unlisted_some hun)
        have hhidden : Hidden (some list) arch ↔ singleArch arch ≠ defaultArch := by
          rw [singleArch_ne_defaultArch_iff]
          exact and_iff_right ⟨list, rfl, hun⟩
        rw [selectArch_of_unlisted harchs hun]
        refine ⟨⟨_, hpromised⟩, ?_, fun _ => rfl, by decide +kernel⟩
        rw [hpromised, hhidden, Decidable.not_not]
        exact eq_comm

/-- An environment with a list of architectures and a single entry. -/
def archEnv (archs arch : String) : Env := fun name =>
  if name = "CUDA_ARCHS" then some archs else if name = "CUDA_ARCH" then some arch else none

/-- A list with blank entries before its first architecture goes before the single entry, and a list
with nothing but separators and blanks hides it. -/
theorem selected_past_blank_entries :
    let env := archEnv ",\u00a0, 8.6 90" "75"
    let bare := archEnv " ,\u00a0,\t" "sm_75"
    ¬ Hidden (env "CUDA_ARCHS") (env "CUDA_ARCH") ∧
      Promised (env "CUDA_ARCHS") (env "CUDA_ARCH") "compute_86" ∧ selectArch env = "compute_86" ∧
      Hidden (bare "CUDA_ARCHS") (bare "CUDA_ARCH") ∧ selectArch bare = defaultArch := by
  intro env bare
  have hlisted : Listed ",\u00a0, 8.6 90" "compute_86" :=
    firstArch?_eq_some_iff.1 (by decide +kernel)
  have hvisible : ¬ Hidden (env "CUDA_ARCHS") (env "CUDA_ARCH") :=
    not_hidden_of_listed rfl hlisted
  have hpromised : Promised (env "CUDA_ARCHS") (env "CUDA_ARCH") "compute_86" :=
    .listed rfl hlisted
  have hhidden : Hidden (bare "CUDA_ARCHS") (bare "CUDA_ARCH") :=
    ⟨⟨_, rfl, firstArch?_eq_none_iff.1 (by decide +kernel)⟩,
      "sm_75", rfl, by decide +kernel, by decide +kernel⟩
  obtain ⟨⟨a, hunique⟩, hselected, -, -⟩ := promised_unless_hidden env
  obtain ⟨-, -, hdefault, -⟩ := promised_unless_hidden bare
  have hselect := (hunique _).1 (hselected.2 hvisible)
  exact ⟨hvisible, hpromised, hselect.trans ((hunique _).1 hpromised).symm, hhidden,
    hdefault hhidden⟩

/-- An architecture is hidden behind an empty list. -/
theorem hidden_by_empty_list :
    let env := archEnv "" "75"
    Promised (env "CUDA_ARCHS") (env "CUDA_ARCH") "compute_75" ∧
      selectArch env = "compute_89" ∧
      ¬ Promised (env "CUDA_ARCHS") (env "CUDA_ARCH") (selectArch env) := by
  intro env
  have hun : Unlisted (some "") := unlisted_some (firstArch?_eq_none_iff.1 (by decide +kernel))
  have hpromised : ∀ b, Promised (some "") (some "75") b ↔ b = singleArch (some "75") := fun b =>
    promised_iff_of_unlisted hun
  exact ⟨(hpromised _).2 (by decide +kernel), by decide +kernel,
    fun h => absurd ((hpromised _).1 h) (by decide +kernel)⟩

end Offload.Toolchain
