/-
**What numerals spell.**

A numeral is read digit by digit, and its value is checked against the limit of its type after each
digit.  Values only grow on the way, so no early refusal is wrong: the reader accepts exactly the
texts that are an optional sign and some decimal digits and that spell a number of the type, and
gives that number.  Leading zeros do no harm, however many there are.

Main definitions:

* `Offload.Text.Numeral.decimal` — the number that decimal digits denote;
* `Offload.Text.Numeral.Spells` — a text spells an integer;
* `Offload.Text.Numeral.Counts` — a text spells a natural number, without a minus sign.

Main results:

* `Offload.Text.Numeral.digits_eq_ok_iff`, `Offload.Text.Numeral.magnitude_eq_ok_iff` — what the
  reader of digits accepts;
* `Offload.Text.Numeral.int32_eq_ok_iff`, `Offload.Text.Numeral.natural_eq_ok_iff` — **a text is
  read as the number that it spells**.
-/

import Mathlib.Data.Nat.Digits.Defs
import Offload.Text.Numeral

set_option autoImplicit false

namespace Offload.Text.Numeral

/-- The number that decimal digits denote, the units standing last. -/
def decimal (cs : List Char) : Nat :=
  Nat.ofDigits 10 (cs.reverse.map digitValue)

theorem decimal_cons (c : Char) (rest : List Char) :
    decimal (c :: rest) = digitValue c * 10 ^ rest.length + decimal rest := by
  unfold decimal
  rw [List.reverse_cons, List.map_append, List.map_singleton, Nat.ofDigits_append,
    Nat.ofDigits_singleton, List.length_map, List.length_reverse, Nat.mul_comm, Nat.add_comm]

/-- Some decimal digits, and nothing else. -/
def IsDecimal (cs : List Char) : Prop :=
  cs ≠ [] ∧ ∀ c ∈ cs, c.isDigit = true

/-- Spelling an integer: an optional sign and decimal digits. -/
inductive Spells : List Char → Int → Prop
  | bare {cs : List Char} (h : IsDecimal cs) : Spells cs (decimal cs)
  | plus {cs : List Char} (h : IsDecimal cs) : Spells ('+' :: cs) (decimal cs)
  | minus {cs : List Char} (h : IsDecimal cs) : Spells ('-' :: cs) (-(decimal cs : Int))

/-- Spelling a natural number: an optional plus sign and decimal digits. -/
inductive Counts : List Char → Nat → Prop
  | bare {cs : List Char} (h : IsDecimal cs) : Counts cs (decimal cs)
  | plus {cs : List Char} (h : IsDecimal cs) : Counts ('+' :: cs) (decimal cs)

/-! ### Digits -/

section Digits

variable {limit value n : Nat} {overflow : Fault} {cs : List Char}

/-- **Digits are accepted iff the number that they lead to is within the limit**, `value` being that
of the digits before them. -/
theorem digits_eq_ok_iff (hvalue : value ≤ limit) :
    digits limit overflow value cs = .ok n ↔
      (∀ c ∈ cs, c.isDigit = true) ∧ n = value * 10 ^ cs.length + decimal cs ∧ n ≤ limit := by
  induction cs generalizing value with
  | nil =>
      have hdecimal : decimal [] = 0 := rfl
      simp only [digits, Except.ok.injEq, List.length_nil, hdecimal, List.not_mem_nil]
      constructor
      · rintro rfl
        exact ⟨by simp, by omega, hvalue⟩
      · rintro ⟨-, hn, -⟩
        omega
  | cons c rest ih =>
      have hpow : 1 ≤ 10 ^ rest.length :=
        Nat.one_le_two_pow.trans (Nat.pow_le_pow_left (by omega) _)
      have hshift : value * 10 ^ (rest.length + 1) + decimal (c :: rest) =
          (value * 10 + digitValue c) * 10 ^ rest.length + decimal rest := by
        rw [decimal_cons, Nat.pow_succ', Nat.add_mul, Nat.mul_assoc, Nat.add_assoc]
      -- the value before a digit is at most the value behind all of them
      have hgrow : value * 10 + digitValue c ≤
          (value * 10 + digitValue c) * 10 ^ rest.length := Nat.le_mul_of_pos_right _ hpow
      rw [digits, List.length_cons, hshift, List.forall_mem_cons]
      split
      · rename_i hdigit
        split
        · rename_i hle
          rw [ih hle]
          simp [hdigit]
        · rename_i hle
          constructor
          · intro h
            cases h
          · rintro ⟨-, hn, hlimit⟩
            omega
      · rename_i hdigit
        constructor
        · intro h
          cases h
        · rintro ⟨⟨h, -⟩, -⟩
          exact absurd h hdigit

theorem magnitude_eq_ok_iff :
    magnitude limit overflow cs = .ok n ↔ IsDecimal cs ∧ n = decimal cs ∧ n ≤ limit := by
  cases cs with
  | nil => simp [magnitude, IsDecimal]
  | cons c rest =>
      rw [magnitude, digits_eq_ok_iff (Nat.zero_le _), Nat.zero_mul, Nat.zero_add]
      · simp [IsDecimal]
      · intro h
        cases h

end Digits

/-! ### Signs -/

section Signs

variable {cs : List Char} {z : Int}

theorem not_isDecimal_of_sign {c : Char} (h : c.isDigit = false) : ¬ IsDecimal (c :: cs) := by
  rintro ⟨-, hdigits⟩
  rw [hdigits c List.mem_cons_self] at h
  cases h

theorem spells_minus_iff : Spells ('-' :: cs) z ↔ IsDecimal cs ∧ z = -(decimal cs : Int) := by
  constructor
  · intro h
    cases h with
    | bare h => exact absurd h (not_isDecimal_of_sign (by decide))
    | minus h => exact ⟨h, rfl⟩
  · rintro ⟨h, rfl⟩
    exact .minus h

theorem spells_plus_iff : Spells ('+' :: cs) z ↔ IsDecimal cs ∧ z = (decimal cs : Int) := by
  constructor
  · intro h
    cases h with
    | bare h => exact absurd h (not_isDecimal_of_sign (by decide))
    | plus h => exact ⟨h, rfl⟩
  · rintro ⟨h, rfl⟩
    exact .plus h

theorem spells_bare_iff (hminus : ∀ rest, cs ≠ '-' :: rest) (hplus : ∀ rest, cs ≠ '+' :: rest) :
    Spells cs z ↔ IsDecimal cs ∧ z = (decimal cs : Int) := by
  constructor
  · intro h
    cases h with
    | bare h => exact ⟨h, rfl⟩
    | plus h => exact absurd rfl (hplus _)
    | minus h => exact absurd rfl (hminus _)
  · rintro ⟨h, rfl⟩
    exact .bare h

theorem counts_plus_iff {n : Nat} : Counts ('+' :: cs) n ↔ IsDecimal cs ∧ n = decimal cs := by
  constructor
  · intro h
    cases h with
    | bare h => exact absurd h (not_isDecimal_of_sign (by decide))
    | plus h => exact ⟨h, rfl⟩
  · rintro ⟨h, rfl⟩
    exact .plus h

theorem counts_bare_iff {n : Nat} (hplus : ∀ rest, cs ≠ '+' :: rest) :
    Counts cs n ↔ IsDecimal cs ∧ n = decimal cs := by
  constructor
  · intro h
    cases h with
    | bare h => exact ⟨h, rfl⟩
    | plus h => exact absurd rfl (hplus _)
  · rintro ⟨h, rfl⟩
    exact .bare h

/-- The characters of a natural number are digits and plus signs. -/
theorem Counts.isDigit_or_plus {n : Nat} (h : Counts cs n) {c : Char} (hc : c ∈ cs) :
    c.isDigit = true ∨ c = '+' := by
  cases h with
  | bare h => exact .inl (h.2 c hc)
  | plus h => exact (List.mem_cons.1 hc).elim .inr fun hc => .inl (h.2 c hc)

end Signs

/-! ### Words -/

/-- A magnitude is turned into a word of 32 bits, with or without a sign.  The limit is the largest
magnitude for which there is such a word. -/
theorem map_magnitude_eq_ok_iff {limit : Nat} {overflow : Fault} {cs : List Char} {f : Int → Int}
    {v : Int32} (hlimit : ∀ n : Nat, n ≤ limit ↔ -2 ^ 31 ≤ f n ∧ f n < 2 ^ 31) :
    (do let n ← magnitude limit overflow cs; pure (n : Int)).map (fun z => Int32.ofInt (f z)) =
        .ok v ↔
      IsDecimal cs ∧ v.toInt = f (decimal cs) := by
  have hmap : (do let n ← magnitude limit overflow cs; pure (n : Int)).map
      (fun z => Int32.ofInt (f z)) = .ok v ↔
        ∃ n, magnitude limit overflow cs = .ok n ∧ Int32.ofInt (f n) = v := by
    cases magnitude limit overflow cs <;>
      simp [Except.map, bind, Except.bind, pure, Except.pure]
  rw [hmap]
  simp only [magnitude_eq_ok_iff]
  constructor
  · rintro ⟨n, ⟨hdecimal, rfl, hn⟩, rfl⟩
    obtain ⟨hlow, hhigh⟩ := (hlimit _).1 hn
    exact ⟨hdecimal, Int32.toInt_ofInt_of_le hlow hhigh⟩
  · rintro ⟨hdecimal, hv⟩
    refine ⟨_, ⟨hdecimal, rfl, (hlimit _).2 ?_⟩, ?_⟩
    · rw [← hv]
      exact ⟨v.le_toInt, v.toInt_lt⟩
    · rw [← hv, Int32.ofInt_toInt]

/-- **A text is read as the number that it spells**, and refused if it spells none of 32 bits. -/
theorem int32_eq_ok_iff {s : String} {v : Int32} :
    int32 s = .ok v ↔ Spells s.toList v.toInt := by
  unfold int32
  split
  · rename_i hempty
    rw [hempty, spells_bare_iff (by simp) (by simp)]
    simp [IsDecimal]
  · rename_i rest hminus
    rw [hminus, spells_minus_iff]
    refine map_magnitude_eq_ok_iff ?_
    intro n
    omega
  · rename_i rest hplus
    rw [hplus, spells_plus_iff]
    refine map_magnitude_eq_ok_iff ?_
    intro n
    omega
  · rename_i hempty hminus hplus
    rw [spells_bare_iff hminus hplus]
    refine map_magnitude_eq_ok_iff ?_
    intro n
    omega

/-- **A text is read as the natural number that it spells**, if that is within the limit. -/
theorem natural_eq_ok_iff {limit n : Nat} {s : String} :
    natural limit s = .ok n ↔ Counts s.toList n ∧ n ≤ limit := by
  unfold natural
  split
  · rename_i hempty
    rw [hempty, counts_bare_iff (by simp)]
    simp [IsDecimal]
  · rename_i rest hplus
    rw [hplus, magnitude_eq_ok_iff, counts_plus_iff, and_assoc]
  · rename_i hempty hplus
    rw [magnitude_eq_ok_iff, counts_bare_iff hplus, and_assoc]

end Offload.Text.Numeral
