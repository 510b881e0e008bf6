/-
**The tokens of a JSON text.**

A JSON text is cut into tokens: punctuation, literals, strings and numbers.  Blanks between tokens
are dropped.  Text that belongs to no token makes the whole text unreadable.

Main definitions:

* `Offload.Json.Token` — the tokens;
* `Offload.Json.Quoted.scan` — a string after its opening quote, escapes resolved;
* `Offload.Json.scanNumber` — a number;
* `Offload.Json.tokens` — the tokens of a text.
-/

import Offload.Json.Basic
import Offload.Text.Hex

set_option autoImplicit false

namespace Offload.Json

/-- A token of a JSON text. -/
inductive Token where
  | openArray
  | closeArray
  | openObject
  | closeObject
  | comma
  | colon
  /-- A literal or a number, by its value. -/
  | scalar (value : Json)
  | string (value : Quoted)

/-! ### Strings -/

namespace Quoted

/-- A part of a string: a character, or a UTF-16 unit given by its number. -/
inductive Piece where
  | char (c : Char)
  | unit (n : Nat)
deriving DecidableEq, Repr

/-- The number of a UTF-16 unit in four hexadecimal digits. -/
def unitValue? (a b c d : Char) : Option Nat := do
  let a ← Text.Hex.digit? a
  let b ← Text.Hex.digit? b
  let c ← Text.Hex.digit? c
  let d ← Text.Hex.digit? d
  some (((a * 16 + b) * 16 + c) * 16 + d)

/-- The character that a one-letter escape stands for. -/
def escaped? : Char → Option Char
  | '"' => some '"'
  | '\\' => some '\\'
  | '/' => some '/'
  | 'b' => some '\x08'
  | 'f' => some '\x0c'
  | 'n' => some '\n'
  | 'r' => some '\r'
  | 't' => some '\t'
  | _ => none

/-- The parts of a string up to its closing quote, and the text after it. -/
def scanPieces : List Char → Option (List Piece × List Char)
  | [] => none
  | '"' :: rest => some ([], rest)
  | '\\' :: 'u' :: a :: b :: c :: d :: rest => do
      let n ← unitValue? a b c d
      let (pieces, rest) ← scanPieces rest
      some (.unit n :: pieces, rest)
  | '\\' :: e :: rest => do
      let c ← escaped? e
      let (pieces, rest) ← scanPieces rest
      some (.char c :: pieces, rest)
  | c :: rest =>
      if c.toNat < 0x20 then none
      else do
        let (pieces, rest) ← scanPieces rest
        some (.char c :: pieces, rest)

/-- Whether a UTF-16 unit is the first one of a surrogate pair. -/
def isHigh (n : Nat) : Bool := 0xd800 ≤ n && n < 0xdc00

/-- Whether a UTF-16 unit is the second one of a surrogate pair. -/
def isLow (n : Nat) : Bool := 0xdc00 ≤ n && n < 0xe000

/-- The text that the parts spell, after a first surrogate that still waits for its partner.  There
is none if a surrogate stays alone. -/
def spell? : Option Nat → List Piece → Option (List Char)
  | none, [] => some []
  | none, .char c :: rest => (spell? none rest).map (c :: ·)
  | none, .unit n :: rest =>
      if isHigh n then spell? (some n) rest
      else if isLow n then none
      else (spell? none rest).map (Char.ofNat n :: ·)
  | some high, .unit low :: rest =>
      if isLow low then
        (spell? none rest).map
          (Char.ofNat (0x10000 + (high - 0xd800) * 0x400 + (low - 0xdc00)) :: ·)
      else none
  | some _, _ => none

/-- A string after its opening quote, and the text after its closing one. -/
def scan (cs : List Char) : Option (Quoted × List Char) := do
  let (pieces, rest) ← scanPieces cs
  match spell? none pieces with
  | some s => some (text (String.ofList s), rest)
  | none => some (unpaired, rest)

theorem length_scanPieces {cs rest : List Char} {ps : List Piece}
    (h : scanPieces cs = some (ps, rest)) : rest.length < cs.length := by
  fun_induction scanPieces cs generalizing ps rest with
  | case1 => simp at h
  | case2 r =>
      simp only [Option.some.injEq, Prod.mk.injEq] at h
      simp [h.2]
  | case3 a b c d r ih =>
      simp only [Option.bind_eq_bind, Option.bind_eq_some_iff, Option.some.injEq,
        Prod.mk.injEq, Prod.exists] at h
      obtain ⟨n, _, qs, r', hr, _, rfl⟩ := h
      have := ih hr
      simp only [List.length_cons]
      omega
  | case4 e r _ ih =>
      simp only [Option.bind_eq_bind, Option.bind_eq_some_iff, Option.some.injEq,
        Prod.mk.injEq, Prod.exists] at h
      obtain ⟨c, _, qs, r', hr, _, rfl⟩ := h
      have := ih hr
      simp only [List.length_cons]
      omega
  | case5 => simp at h
  | case6 c r _ _ _ _ ih =>
      simp only [Option.bind_eq_bind, Option.bind_eq_some_iff, Option.some.injEq,
        Prod.mk.injEq, Prod.exists] at h
      obtain ⟨qs, r', hr, _, rfl⟩ := h
      have := ih hr
      simp only [List.length_cons]
      omega

theorem length_scan {cs rest : List Char} {q : Quoted} (h : scan cs = some (q, rest)) :
    rest.length < cs.length := by
  simp only [scan, Option.bind_eq_bind, Option.bind_eq_some_iff, Prod.exists] at h
  obtain ⟨ps, r, hp, h⟩ := h
  have := length_scanPieces hp
  split at h <;> simp_all

end Quoted

/-! ### Numbers -/

/-- Splits off the longest run of decimal digits. -/
def scanDigits (cs : List Char) : List Char × List Char :=
  (cs.takeWhile Char.isDigit, cs.dropWhile Char.isDigit)

/-- Drops a fraction, a point and at least one digit, if there is one.  The flag tells whether there
was one. -/
def scanFraction : List Char → Option (Bool × List Char)
  | '.' :: rest =>
      let (digits, rest) := scanDigits rest
      if digits.isEmpty then none else some (true, rest)
  | cs => some (false, cs)

/-- Drops the sign of an exponent. -/
def dropSign : List Char → List Char
  | '+' :: rest => rest
  | '-' :: rest => rest
  | cs => cs

/-- Drops an exponent, if there is one.  The flag tells whether there was one. -/
def scanExponent : List Char → Option (Bool × List Char)
  | c :: rest =>
      if c = 'e' ∨ c = 'E' then
        let (digits, rest) := scanDigits (dropSign rest)
        if digits.isEmpty then none else some (true, rest)
      else some (false, c :: rest)
  | [] => some (false, [])

/-- The number that a run of decimal digits denotes. -/
def digitsValue (digits : List Char) : Nat :=
  digits.foldl (fun n c => n * 10 + (c.toNat - '0'.toNat)) 0

/-- The value of a number from its sign, its integer part and whether more follows. -/
def numberValue (negative : Bool) (digits : List Char) (more : Bool) : Json :=
  if more then otherNumber
  else if negative then
    if digitsValue digits = 0 then otherNumber else integer (-(digitsValue digits : Int))
  else integer (digitsValue digits)

/-- Whether a run of digits may be the integer part of a number: it is not empty, and starts with a
zero only if that is all. -/
def isIntegerPart : List Char → Bool
  | [] => false
  | ['0'] => true
  | '0' :: _ => false
  | _ => true

/-- A number whose sign has been read, and the text after it. -/
def scanMagnitude (negative : Bool) (cs : List Char) : Option (Json × List Char) := do
  let (digits, rest) := scanDigits cs
  if isIntegerPart digits then
    let (fraction, rest) ← scanFraction rest
    let (exponent, rest) ← scanExponent rest
    some (numberValue negative digits (fraction || exponent), rest)
  else none

/-- A number, and the text after it. -/
def scanNumber : List Char → Option (Json × List Char)
  | '-' :: rest => scanMagnitude true rest
  | cs => scanMagnitude false cs

theorem length_scanDigits_le (cs : List Char) : (scanDigits cs).2.length ≤ cs.length :=
  (List.dropWhile_suffix Char.isDigit).length_le

theorem length_scanDigits_lt {cs : List Char} (h : (scanDigits cs).1 ≠ []) :
    (scanDigits cs).2.length < cs.length := by
  cases cs with
  | nil => simp [scanDigits] at h
  | cons c rest =>
      by_cases hc : c.isDigit = true
      · have := (List.dropWhile_suffix (l := rest) Char.isDigit).length_le
        simp only [scanDigits, List.dropWhile_cons, hc, if_true, List.length_cons]
        omega
      · simp [scanDigits, hc] at h

theorem length_scanFraction {cs rest : List Char} {b : Bool}
    (h : scanFraction cs = some (b, rest)) :
    rest.length ≤ cs.length := by
  unfold scanFraction at h
  split at h
  · rename_i r
    have := length_scanDigits_le r
    dsimp only at h
    split at h <;> simp_all
    · obtain ⟨_, rfl⟩ := h
      omega
  · simp_all

theorem length_dropSign_le (cs : List Char) : (dropSign cs).length ≤ cs.length := by
  unfold dropSign
  split <;> simp

theorem length_scanExponent {cs rest : List Char} {b : Bool}
    (h : scanExponent cs = some (b, rest)) :
    rest.length ≤ cs.length := by
  unfold scanExponent at h
  split at h
  · rename_i c r
    split at h
    · have h1 := length_scanDigits_le (dropSign r)
      have h2 := length_dropSign_le r
      dsimp only at h
      split at h <;> simp_all
      · obtain ⟨_, rfl⟩ := h
        omega
    · simp_all
  · simp_all

theorem length_scanMagnitude {negative : Bool} {cs rest : List Char} {j : Json}
    (h : scanMagnitude negative cs = some (j, rest)) : rest.length < cs.length := by
  simp only [scanMagnitude] at h
  split at h
  · rename_i hi
    simp only [Option.bind_eq_bind, Option.bind_eq_some_iff, Option.some.injEq, Prod.mk.injEq,
      Prod.exists] at h
    obtain ⟨b, r, hf, b', r', he, _, rfl⟩ := h
    have hd : (scanDigits cs).1 ≠ [] := by
      intro h0
      rw [h0] at hi
      simp [isIntegerPart] at hi
    have h1 := length_scanDigits_lt hd
    have h2 := length_scanFraction hf
    have h3 := length_scanExponent he
    omega
  · simp at h

theorem length_scanNumber {cs rest : List Char} {j : Json} (h : scanNumber cs = some (j, rest)) :
    rest.length < cs.length := by
  unfold scanNumber at h
  split at h
  · have := length_scanMagnitude h
    simp only [List.length_cons]
    omega
  · exact length_scanMagnitude h

/-! ### Texts -/

/-- Whether a character is a blank of the JSON grammar. -/
def isSpace (c : Char) : Bool :=
  c = ' ' || c = '\n' || c = '\t' || c = '\r'

/-- The token of a punctuation mark. -/
def punctuation? : Char → Option Token
  | '[' => some .openArray
  | ']' => some .closeArray
  | '\x7b' => some .openObject
  | '\x7d' => some .closeObject
  | ',' => some .comma
  | ':' => some .colon
  | _ => none

/-- A literal at the start of a text, and the text after it. -/
def literal? : List Char → Option (Json × List Char)
  | 'n' :: 'u' :: 'l' :: 'l' :: rest => some (null, rest)
  | 't' :: 'r' :: 'u' :: 'e' :: rest => some (bool true, rest)
  | 'f' :: 'a' :: 'l' :: 's' :: 'e' :: rest => some (bool false, rest)
  | _ => none

/-- The first token of a text that does not start with a blank, and the text after it. -/
def token? : List Char → Option (Token × List Char)
  | [] => none
  | c :: rest =>
      match punctuation? c with
      | some t => some (t, rest)
      | none =>
          if c = '"' then (Quoted.scan rest).map fun r => (.string r.1, r.2)
          else
            match literal? (c :: rest) with
            | some (j, rest) => some (.scalar j, rest)
            | none => (scanNumber (c :: rest)).map fun r => (.scalar r.1, r.2)

theorem length_literal? {cs rest : List Char} {j : Json} (h : literal? cs = some (j, rest)) :
    rest.length < cs.length := by
  unfold literal? at h
  split at h <;> simp_all <;> omega

theorem length_token? {cs rest : List Char} {t : Token} (h : token? cs = some (t, rest)) :
    rest.length < cs.length := by
  unfold token? at h
  split at h
  · simp at h
  · rename_i c r
    split at h
    · simp only [Option.some.injEq, Prod.mk.injEq] at h
      simp [← h.2]
    · split at h
      · simp only [Option.map_eq_some_iff, Prod.mk.injEq, Prod.exists] at h
        obtain ⟨q, r', hq, _, rfl⟩ := h
        have := Quoted.length_scan hq
        simp only [List.length_cons]
        omega
      · split at h
        · rename_i hl
          simp only [Option.some.injEq, Prod.mk.injEq] at h
          rw [← h.2]
          exact length_literal? hl
        · simp only [Option.map_eq_some_iff, Prod.mk.injEq, Prod.exists] at h
          obtain ⟨j, r', hj, _, rfl⟩ := h
          exact length_scanNumber hj

/-- The tokens of a text, if it can be cut into tokens. -/
def tokens (cs : List Char) : Option (List Token) :=
  match cs with
  | [] => some []
  | c :: rest =>
      if isSpace c then tokens rest
      else
        match h : token? (c :: rest) with
        | none => none
        | some (t, after) =>
            have : after.length < (c :: rest).length := length_token? h
            (tokens after).map (t :: ·)
termination_by cs.length
decreasing_by
  · exact Nat.lt_succ_self _
  · exact this

end Offload.Json
