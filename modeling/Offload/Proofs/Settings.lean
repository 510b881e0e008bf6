/-
**What the environment sets.**

Each setting is read from one variable.  The two numbers are numerals with blanks around them: an
optional plus sign and decimal digits, however many, that denote a number within the range of the
setting.  Any other text leaves the default, and so does a variable that is not set.  The two
switches are compared with fixed texts.  One of these comparisons is made in lower case, and no
table of letters is needed for it: of the characters beyond ASCII only two have a lower-case form
that starts in ASCII, with an `i` and with a `k`, and the text `false` has neither letter.

Main definitions:

* `Offload.Text.Lowercase` — a way to write texts in lower case;
* `Offload.Config.Names` — a text is a numeral with blanks around it;
* `Offload.Env.Gives` — a variable gives a number within a range.

Main results:

* `Offload.Text.Lowercase.lower_eq_iff` — every lower case agrees with that of ASCII on `false`;
* `Offload.Config.natural?_eq_some_iff` — the texts that are read as a number;
* `Offload.Config.ofEnv_eq_iff` — **the settings are those that the variables give**.
-/

import Offload.Config
import Offload.Proofs.Numerals
import Offload.Proofs.Pieces

set_option autoImplicit false

namespace Offload

/-! ### Lower case -/

namespace Text

/-- A way to write texts in lower case.  The form of a character may depend on the characters before
it and behind it, and may have several characters itself. -/
structure Lowercase where
  /-- The lower-case form of a character between others. -/
  form : List Char → Char → List Char → List Char
  /-- The ASCII characters have their usual form. -/
  form_ascii (before : List Char) (c : Char) (after : List Char) (h : c.toNat < 128) :
    form before c after = [c.toLower]
  /-- Beyond ASCII, two letters at most have a form that starts in ASCII: the dotted `I`, and the
  sign for kelvins. -/
  form_beyond (before : List Char) (c : Char) (after : List Char) (h : 128 ≤ c.toNat) :
    ∃ d rest, form before c after = d :: rest ∧ (d.toNat < 128 → d = 'i' ∨ d = 'k')

namespace Lowercase

/-- Characters in lower case, `before` being those that stand before them. -/
def lowerFrom (lower : Lowercase) : List Char → List Char → List Char
  | _, [] => []
  | before, c :: rest => lower.form before c rest ++ lower.lowerFrom (before ++ [c]) rest

/-- A text in lower case. -/
def text (lower : Lowercase) (s : String) : String :=
  String.ofList (lower.lowerFrom [] s.toList)

theorem toLower_of_beyond {c : Char} (h : 128 ≤ c.toNat) : c.toLower = c := by
  have hrange : ¬ (c.val ≥ 'A'.val ∧ c.val ≤ 'Z'.val) := by
    rintro ⟨-, hle⟩
    have hnat : c.toNat ≤ 90 := UInt32.le_iff_toNat_le.1 hle
    omega
  unfold Char.toLower
  rw [dif_neg hrange]

/-- The lower case that leaves everything beyond ASCII alone. -/
def ascii : Lowercase where
  form := fun _ c _ => [c.toLower]
  form_ascii := fun _ _ _ _ => rfl
  form_beyond := by
    intro _ c _ h
    refine ⟨c, [], by rw [toLower_of_beyond h], fun hc => ?_⟩
    omega

/-- The ASCII characters that only ASCII characters have as their lower case. -/
def IsPlain (c : Char) : Prop :=
  c.toNat < 128 ∧ c ≠ 'i' ∧ c ≠ 'k'

instance (c : Char) : Decidable (IsPlain c) :=
  inferInstanceAs (Decidable (c.toNat < 128 ∧ c ≠ 'i' ∧ c ≠ 'k'))

/-- **Every lower case agrees with that of ASCII on plain words.** -/
theorem lowerFrom_eq_iff (lower : Lowercase) {before cs word : List Char}
    (hword : ∀ c ∈ word, IsPlain c) :
    lower.lowerFrom before cs = word ↔ cs.map Char.toLower = word := by
  induction cs generalizing before word with
  | nil => rfl
  | cons c rest ih =>
      rw [lowerFrom, List.map_cons]
      rcases Nat.lt_or_ge c.toNat 128 with hc | hc
      · rw [lower.form_ascii before c rest hc, List.singleton_append]
        cases word with
        | nil => exact iff_of_false (List.cons_ne_nil _ _) (List.cons_ne_nil _ _)
        | cons d word =>
            rw [List.cons.injEq, List.cons.injEq, ih (List.forall_mem_cons.1 hword).2]
      · -- the word would start with a character that has no such form
        obtain ⟨d, more, hform, hd⟩ := lower.form_beyond before c rest hc
        rw [hform, toLower_of_beyond hc]
        refine iff_of_false ?_ ?_
        · rintro rfl
          obtain ⟨hlt, hi, hk⟩ := hword d List.mem_cons_self
          exact (hd hlt).elim hi hk
        · rintro rfl
          have hlt := (hword c List.mem_cons_self).1
          omega

theorem lower_eq_iff (lower : Lowercase) {s word : String} (hword : ∀ c ∈ word.toList, IsPlain c) :
    lower.text s = word ↔ s.toList.map Char.toLower = word.toList := by
  rw [text, ← String.toList_inj, String.toList_ofList, lower.lowerFrom_eq_iff hword]

end Lowercase

end Text

/-! ### Numbers -/

namespace Config

/-- A text is a numeral with blanks around it: an optional plus sign, and decimal digits. -/
def Names (value : String) (n : Nat) : Prop :=
  ∃ numeral, Text.Padded value numeral ∧ Text.Numeral.Counts numeral.toList n

theorem isWord_of_counts {s : String} {n : Nat} (h : Text.Numeral.Counts s.toList n) :
    Text.IsWord s := by
  intro c hc
  rcases h.isDigit_or_plus hc with hdigit | rfl
  · exact Text.isBlank_of_isDigit hdigit
  · rfl

/-- **A text is read as the number that it names**, if that is within the limit. -/
theorem natural?_eq_some_iff {limit n : Nat} {value : String} :
    natural? limit value = some n ↔ Names value n ∧ n ≤ limit := by
  have hread : natural? limit value = some n ↔
      Text.Numeral.natural limit (Text.trim value) = .ok n := by
    unfold natural?
    cases Text.Numeral.natural limit (Text.trim value) <;> simp [Except.toOption]
  rw [hread, Text.Numeral.natural_eq_ok_iff]
  constructor
  · rintro ⟨hcounts, hn⟩
    exact ⟨⟨Text.trim value, Text.padded_trim value, hcounts⟩, hn⟩
  · rintro ⟨⟨numeral, hpadded, hcounts⟩, hn⟩
    rw [(Text.trim_eq_iff (isWord_of_counts hcounts)).2 hpadded]
    exact ⟨hcounts, hn⟩

end Config

/-- A variable gives a number below a bound. -/
def Env.Gives (env : Env) (name : String) (bound n : Nat) : Prop :=
  ∃ value, env name = some value ∧ Config.Names value n ∧ n < bound

namespace Config

section Numbers

variable {env : Env} {name : String} {limit : Nat}

theorem bind_natural?_eq_some_iff {n : Nat} :
    (env name).bind (natural? limit) = some n ↔ env.Gives name (limit + 1) n := by
  rw [Option.bind_eq_some_iff]
  simp only [natural?_eq_some_iff, Nat.lt_succ_iff.symm]
  exact Iff.rfl

/-- A number that is read from a variable, or else a default. -/
theorem getD_bind_natural?_eq_iff (f : Nat → Nat) (default h : Nat) :
    (((env name).bind (natural? limit)).map f).getD default = h ↔
      (∃ n, env.Gives name (limit + 1) n ∧ h = f n) ∨
        (∀ n, ¬ env.Gives name (limit + 1) n) ∧ h = default := by
  simp only [← bind_natural?_eq_some_iff]
  cases hread : (env name).bind (natural? limit) with
  | none => simp [eq_comm]
  | some n => simp [eq_comm]

end Numbers

/-! ### The settings -/

section Settings

variable (env : Env)

theorem deviceOrdinal_eq :
    (ofEnv env).deviceOrdinal =
      (((env "HARNESS_DEVICE").bind (natural? (UInt32.size - 1))).map UInt32.ofNat).getD 0 := by
  rw [Option.map_bind]
  rfl

theorem toNat_deviceOrdinal :
    (ofEnv env).deviceOrdinal.toNat =
      (((env "HARNESS_DEVICE").bind (natural? (UInt32.size - 1))).map id).getD 0 := by
  rw [deviceOrdinal_eq]
  cases hread : (env "HARNESS_DEVICE").bind (natural? (UInt32.size - 1)) with
  | none => rfl
  | some n =>
      obtain ⟨-, -, -, hn⟩ := bind_natural?_eq_some_iff.1 hread
      exact UInt32.toNat_ofNat_of_lt' hn

theorem headroomBytes_eq :
    (ofEnv env).headroomBytes = (((env "HARNESS_MEM_HEADROOM_MB").bind (natural? Word.max)).map
      fun n => UInt64.ofNat (Word.saturate (n * (1024 * 1024)))).getD (64 * 1024 * 1024) := by
  rw [Option.map_bind]
  rfl

theorem toNat_headroomBytes :
    (ofEnv env).headroomBytes.toNat =
      (((env "HARNESS_MEM_HEADROOM_MB").bind (natural? Word.max)).map
        fun n => min (n * 2 ^ 20) (2 ^ 64 - 1)).getD (64 * 2 ^ 20) := by
  have hmebibyte : 1024 * 1024 = 2 ^ 20 := by decide
  have hdefault : (64 * 1024 * 1024 : UInt64).toNat = 64 * 2 ^ 20 := by decide
  have hmax : Word.max = 2 ^ 64 - 1 := by decide
  rw [headroomBytes_eq, hmebibyte]
  cases (env "HARNESS_MEM_HEADROOM_MB").bind (natural? Word.max) with
  | none =>
      rw [Option.map_none, Option.map_none, Option.getD_none, Option.getD_none, hdefault]
  | some n =>
      have hlt : Word.saturate (n * 2 ^ 20) < UInt64.size :=
        Nat.lt_of_le_of_lt (Nat.min_le_right _ _) (by decide)
      rw [Option.map_some, Option.map_some, Option.getD_some, Option.getD_some,
        UInt64.toNat_ofNat_of_lt' hlt, Word.saturate, hmax]

theorem isOff_iff (lower : Text.Lowercase) (value : String) :
    isOff value = true ↔ value = "0" ∨ lower.text value = "false" := by
  have hplain : ∀ c ∈ "false".toList, Text.Lowercase.IsPlain c := fun c hc =>
    of_decide_eq_true (List.all_eq_true.1 (by decide +kernel :
      "false".toList.all (fun c => decide (Text.Lowercase.IsPlain c)) = true) c hc)
  rw [lower.lower_eq_iff hplain, isOff, Bool.or_eq_true, decide_eq_true_iff, decide_eq_true_iff]

theorem memCheck_eq_false_iff (lower : Text.Lowercase) :
    (ofEnv env).memCheck = false ↔
      ∃ value, env "CUDA_MEM_CHECK" = some value ∧
        (value = "0" ∨ lower.text value = "false") := by
  unfold ofEnv
  simp only [← isOff_iff]
  cases env "CUDA_MEM_CHECK" <;> simp

/-- **The settings are those that the variables give.**  The number of the device and the headroom
are numerals within the range of a word, blanks around them apart, and any other text leaves the
default; the headroom counts mebibytes and stops at the largest word.  Memory is checked unless the
variable is `0` or is `false` in lower case, whatever lower case is for the letters beyond ASCII.
So each setting only depends on a variable of its own. -/
theorem ofEnv_eq_iff (lower : Text.Lowercase) :
    (∀ n, (ofEnv env).deviceOrdinal.toNat = n ↔
      env.Gives "HARNESS_DEVICE" (2 ^ 32) n ∨
        (∀ m, ¬ env.Gives "HARNESS_DEVICE" (2 ^ 32) m) ∧ n = 0) ∧
    (∀ h, (ofEnv env).headroomBytes.toNat = h ↔
      (∃ n, env.Gives "HARNESS_MEM_HEADROOM_MB" (2 ^ 64) n ∧
          h = min (n * 2 ^ 20) (2 ^ 64 - 1)) ∨
        (∀ n, ¬ env.Gives "HARNESS_MEM_HEADROOM_MB" (2 ^ 64) n) ∧ h = 64 * 2 ^ 20) ∧
    ((ofEnv env).memCheck = false ↔
      ∃ value, env "CUDA_MEM_CHECK" = some value ∧
        (value = "0" ∨ lower.text value = "false")) ∧
    ((ofEnv env).debug = true ↔ env "HARNESS_DEBUG" = some "1") ∧
    ∀ other : Env,
      (other "HARNESS_DEVICE" = env "HARNESS_DEVICE" →
        (ofEnv other).deviceOrdinal = (ofEnv env).deviceOrdinal) ∧
      (other "HARNESS_MEM_HEADROOM_MB" = env "HARNESS_MEM_HEADROOM_MB" →
        (ofEnv other).headroomBytes = (ofEnv env).headroomBytes) ∧
      (other "CUDA_MEM_CHECK" = env "CUDA_MEM_CHECK" →
        (ofEnv other).memCheck = (ofEnv env).memCheck) ∧
      (other "HARNESS_DEBUG" = env "HARNESS_DEBUG" →
        (ofEnv other).debug = (ofEnv env).debug) := by
  refine ⟨?_, ?_, memCheck_eq_false_iff env lower, decide_eq_true_iff, ?_⟩
  · intro n
    have hbound : UInt32.size - 1 + 1 = 2 ^ 32 := by decide
    rw [toNat_deviceOrdinal, getD_bind_natural?_eq_iff, hbound]
    simp only [id_eq, exists_eq_right']
  · intro h
    have hbound : Word.max + 1 = 2 ^ 64 := by decide
    rw [toNat_headroomBytes, getD_bind_natural?_eq_iff, hbound]
  · intro other
    unfold ofEnv
    refine ⟨?_, ?_, ?_, ?_⟩ <;> intro hsame <;> rw [hsame]

/-- Blanks, a plus sign and leading zeros are passed over, the headroom stops at the largest word,
and the last variable, which is not set, has no say in the first. -/
theorem ofEnv_of_padded :
    let env : Env := fun name =>
      [("HARNESS_DEVICE", "\t +007\u2003"), ("HARNESS_MEM_HEADROOM_MB", "18446744073709551615"),
        ("CUDA_MEM_CHECK", "FaLsE")].lookup name
    (ofEnv env).deviceOrdinal.toNat = 7 ∧ (ofEnv env).headroomBytes.toNat = 2 ^ 64 - 1 ∧
      (ofEnv env).memCheck = false ∧ ¬ (ofEnv env).debug = true ∧
      (ofEnv fun name => if name = "HARNESS_DEBUG" then some "1" else env name).deviceOrdinal =
        (ofEnv env).deviceOrdinal := by
  intro env
  obtain ⟨hdevice, hroom, hcheck, hdebug, hown⟩ := ofEnv_eq_iff env .ascii
  have hseven : Names "\t +007\u2003" 7 :=
    ⟨"+007", ⟨"\t ", "\u2003", by decide, List.all_eq_true.1 (by decide +kernel),
        List.all_eq_true.1 (by decide +kernel)⟩,
      @Text.Numeral.Counts.plus "007".toList
        ⟨by decide, List.all_eq_true.1 (by decide +kernel)⟩⟩
  have hlargest : Names "18446744073709551615" (2 ^ 64 - 1) :=
    ⟨"18446744073709551615", ⟨"", "", by decide, fun _ h => (nomatch h), fun _ h => nomatch h⟩,
      @Text.Numeral.Counts.bare "18446744073709551615".toList
        ⟨by decide, List.all_eq_true.1 (by decide +kernel)⟩⟩
  refine ⟨(hdevice 7).2 (.inl ⟨_, rfl, hseven, by decide⟩),
    (hroom _).2 (.inl ⟨_, ⟨_, rfl, hlargest, by decide⟩, by decide⟩), hcheck.2 ⟨_, rfl, .inr ?_⟩,
    ?_, (hown _).1 rfl⟩
  · decide
  · rw [hdebug]
    decide

end Settings

end Config

end Offload
