/-
**A JSON text is read as the value it was written for.**

The text of a value is cut back into its tokens: punctuation stands for itself, a string is read up
to its closing quote with its escapes undone, and a number ends where a character follows that
cannot go on with it.  The reader puts the tokens together again, with one frame for each array or
object that is still open.  Blanks around the text are dropped, and so are the blanks of a text in
several lines, which has the same tokens as the text without blanks.

Main definitions:

* `Offload.Json.Stops` — a text that does not go on with a number;
* `Offload.Json.lexemes` — the tokens of a value;
* `Offload.Json.CutsInto`, `Offload.Json.ReadsAs` — the two steps from a text to a value.

Main results:

* `Offload.Json.scanNumber_intChars`, `Offload.Json.Quoted.scan_chars` — numbers and strings are
  read back;
* `Offload.Json.cutsInto_chars`, `Offload.Json.cutsInto_prettyChars` — both texts of a value are cut
  into the tokens of the value;
* `Offload.Json.readsAs_lexemes` — the tokens of a value are read as the value;
* `Offload.Json.parse?_compact`, `Offload.Json.parse?_pretty` — **both texts of every value, with
  blanks around them, are read as that value**.
-/

import Offload.Json.Reader

set_option autoImplicit false

namespace Offload.Json

/-! ### Numbers -/

/-- Whether a character may stand behind the first digit of a number. -/
def extendsNumber (c : Char) : Bool :=
  c.isDigit || c = '.' || c = 'e' || c = 'E'

/-- A text that does not go on with a number. -/
def Stops (cs : List Char) : Prop :=
  ∀ c ∈ cs.head?, extendsNumber c = false

section Numbers

variable {cs rest : List Char}

theorem stops_cons {c : Char} (h : extendsNumber c = false) : Stops (c :: cs) := by
  intro d hd
  cases hd
  exact h

theorem scanDigits_append (hdigits : ∀ c ∈ cs, c.isDigit = true) (hstops : Stops rest) :
    scanDigits (cs ++ rest) = (cs, rest) := by
  unfold scanDigits
  rw [List.takeWhile_append_of_pos hdigits, List.dropWhile_append_of_pos hdigits]
  cases rest with
  | nil => simp
  | cons c rest =>
      have hc := hstops c rfl
      simp only [extendsNumber, Bool.or_eq_false_iff] at hc
      simp [hc]

theorem scanFraction_of_stops (hstops : Stops rest) : scanFraction rest = some (false, rest) := by
  unfold scanFraction
  split
  · have hpoint := hstops '.' rfl
    simp [extendsNumber] at hpoint
  · rfl

theorem scanExponent_of_stops (hstops : Stops rest) : scanExponent rest = some (false, rest) := by
  unfold scanExponent
  split
  · rename_i c cs
    have hc := hstops c rfl
    simp only [extendsNumber, Bool.or_eq_false_iff, decide_eq_false_iff_not] at hc
    rw [if_neg (by simp [hc])]
  · rfl

theorem digitsValue_toDigits (n : Nat) : digitsValue (Nat.toDigits 10 n) = n := by
  have hfold : (fun value (c : Char) => value * 10 + (c.toNat - '0'.toNat)) =
      fun value c => 10 * value + (c.toNat - '0'.toNat) := by
    funext value c
    rw [Nat.mul_comm]
  unfold digitsValue
  rw [hfold, ← Nat.ofDigitChars_eq_foldl, Nat.ofDigitChars_ten_toDigits]

theorem isDigit_toDigits {n : Nat} {c : Char} (hc : c ∈ Nat.toDigits 10 n) : c.isDigit = true :=
  Nat.isDigit_of_mem_toDigits (by decide) (by decide) hc

/-- A numeral starts with a digit. -/
theorem toDigits_eq_cons (n : Nat) :
    ∃ c digits, Nat.toDigits 10 n = c :: digits ∧ c.isDigit = true := by
  cases hn : Nat.toDigits 10 n with
  | nil => exact absurd hn Nat.toDigits_ne_nil
  | cons c digits =>
      refine ⟨c, digits, rfl, isDigit_toDigits (n := n) ?_⟩
      rw [hn]
      exact List.mem_cons_self

/-- A numeral does not start with a zero, unless it is the numeral of zero. -/
theorem head?_toDigits {n : Nat} (hn : n ≠ 0) : (Nat.toDigits 10 n).head? ≠ some '0' := by
  induction n using Nat.strongRecOn with
  | ind n ih =>
      by_cases hlt : n < 10
      · rw [Nat.toDigits_of_lt_base hlt]
        simp [Nat.digitChar_eq_zero, hn]
      · have hquotient : n / 10 ≠ 0 := by omega
        have hshorter := ih (n / 10) (by omega) hquotient
        rw [Nat.toDigits_of_base_le (by decide) (by omega), List.head?_append]
        cases hhead : (Nat.toDigits 10 (n / 10)).head? with
        | none => exact absurd (List.head?_eq_none_iff.1 hhead) Nat.toDigits_ne_nil
        | some c => simpa [hhead] using hshorter

theorem isIntegerPart_toDigits (n : Nat) : isIntegerPart (Nat.toDigits 10 n) = true := by
  unfold isIntegerPart
  split
  · rename_i hnil
    exact absurd hnil Nat.toDigits_ne_nil
  · rfl
  · rename_i rest hlong hzero
    by_cases hn : n = 0
    · subst hn
      rw [Nat.toDigits_zero, List.cons.injEq] at hzero
      exact absurd hzero.2.symm hlong
    · have hhead := head?_toDigits hn
      rw [hzero] at hhead
      exact absurd rfl hhead
  · rfl

theorem scanMagnitude_toDigits (negative : Bool) (n : Nat) (hstops : Stops rest) :
    scanMagnitude negative (Nat.toDigits 10 n ++ rest) =
      some (numberValue negative (Nat.toDigits 10 n) false, rest) := by
  have hdigits : ∀ c ∈ Nat.toDigits 10 n, c.isDigit = true := fun _ => isDigit_toDigits
  simp [scanMagnitude, scanDigits_append hdigits hstops, isIntegerPart_toDigits,
    scanFraction_of_stops hstops, scanExponent_of_stops hstops]

/-- **An integer is read back**, if what follows does not go on with it. -/
theorem scanNumber_intChars (z : Int) (hstops : Stops rest) :
    scanNumber (intChars z ++ rest) = some (integer z, rest) := by
  cases z with
  | ofNat n =>
      have hvalue : numberValue false (Nat.toDigits 10 n) false = integer (.ofNat n) := by
        simp [numberValue, digitsValue_toDigits]
      rw [← hvalue, ← scanMagnitude_toDigits false n hstops, intChars]
      -- no digit is a minus sign
      obtain ⟨c, digits, hn, hdigit⟩ := toDigits_eq_cons n
      have hminus : c ≠ '-' := by
        rintro rfl
        cases hdigit
      simp [hn, scanNumber, hminus]
  | negSucc n =>
      have hvalue : numberValue true (Nat.toDigits 10 (n + 1)) false = integer (.negSucc n) := by
        simp [numberValue, digitsValue_toDigits, Int.negSucc_eq]
      rw [← hvalue]
      exact scanMagnitude_toDigits true (n + 1) hstops

end Numbers

/-! ### Strings -/

namespace Quoted

/-- A part of a string spells a character, whatever parts follow. -/
def Piece.Spells (p : Piece) (c : Char) : Prop :=
  ∀ ps, spell? none (p :: ps) = (spell? none ps).map (c :: ·)

theorem Piece.spells_char (c : Char) : (Piece.char c).Spells c := by
  intro ps
  rfl

theorem Piece.spells_unit {c : Char} (hc : c.toNat < 0x20) : (Piece.unit c.toNat).Spells c := by
  intro ps
  have hhigh : isHigh c.toNat = false := by
    simp only [isHigh, Bool.and_eq_false_iff, decide_eq_false_iff_not]
    omega
  have hlow : isLow c.toNat = false := by
    simp only [isLow, Bool.and_eq_false_iff, decide_eq_false_iff_not]
    omega
  rw [spell?, hhigh, hlow]
  simp

/-- The two digits of a control character denote its number. -/
theorem unitValue?_hexDigit {n : Nat} (hn : n < 0x20) :
    unitValue? '0' '0' (hexDigit (n / 16)) (hexDigit n) = some n := by
  decide +revert

/-- The three ways in which a character is written: a short escape, its number, or itself. -/
theorem escape_cases (c : Char) :
    (∃ e, e ≠ 'u' ∧ escaped? e = some c ∧ escape c = ['\\', e]) ∨
      (c.toNat < 0x20 ∧
        escape c = ['\\', 'u', '0', '0', hexDigit (c.toNat / 16), hexDigit c.toNat]) ∨
      (c ≠ '"' ∧ c ≠ '\\' ∧ ¬ c.toNat < 0x20 ∧ escape c = [c]) := by
  by_cases hshort : c ∈ ['"', '\\', '\x08', '\x0c', '\n', '\r', '\t']
  · left
    simp only [List.mem_cons, List.not_mem_nil, or_false] at hshort
    rcases hshort with rfl | rfl | rfl | rfl | rfl | rfl | rfl
    · exact ⟨'"', by decide, rfl, rfl⟩
    · exact ⟨'\\', by decide, rfl, rfl⟩
    · exact ⟨'b', by decide, rfl, rfl⟩
    · exact ⟨'f', by decide, rfl, rfl⟩
    · exact ⟨'n', by decide, rfl, rfl⟩
    · exact ⟨'r', by decide, rfl, rfl⟩
    · exact ⟨'t', by decide, rfl, rfl⟩
  · right
    simp only [List.mem_cons, List.not_mem_nil, or_false, not_or] at hshort
    obtain ⟨hquote, hslash, hback, hfeed, hline, hreturn, htab⟩ := hshort
    rw [escape, if_neg hquote, if_neg hslash, if_neg hback, if_neg hfeed, if_neg hline,
      if_neg hreturn, if_neg htab]
    by_cases hcontrol : c.toNat < 0x20
    · exact .inl ⟨hcontrol, if_pos hcontrol⟩
    · exact .inr ⟨hquote, hslash, hcontrol, if_neg hcontrol⟩

/-- A written character is read as one part that spells it. -/
theorem scanPieces_escape (c : Char) (cs : List Char) :
    ∃ p : Piece, p.Spells c ∧
      scanPieces (escape c ++ cs) = (scanPieces cs).bind fun r => some (p :: r.1, r.2) := by
  rcases escape_cases c with ⟨e, hunit, he, hc⟩ | ⟨hcontrol, hc⟩ | ⟨hquote, hslash, hcontrol, hc⟩
  · refine ⟨.char c, Piece.spells_char c, ?_⟩
    simp [hc, scanPieces, hunit, he]
  · refine ⟨.unit c.toNat, Piece.spells_unit hcontrol, ?_⟩
    simp [hc, scanPieces, unitValue?_hexDigit hcontrol]
  · refine ⟨.char c, Piece.spells_char c, ?_⟩
    simp [hc, scanPieces, hslash, hcontrol]

/-- The written characters of a string are read as parts that spell them. -/
theorem scanPieces_flatMap_escape (s rest : List Char) :
    ∃ ps, scanPieces (s.flatMap escape ++ '"' :: rest) = some (ps, rest) ∧
      spell? none ps = some s := by
  induction s with
  | nil => exact ⟨[], rfl, rfl⟩
  | cons c s ih =>
      obtain ⟨ps, hscan, hspell⟩ := ih
      obtain ⟨p, hp, hescape⟩ := scanPieces_escape c (s.flatMap escape ++ '"' :: rest)
      refine ⟨p :: ps, ?_, ?_⟩
      · rw [List.flatMap_cons, List.append_assoc, hescape, hscan]
        rfl
      · rw [hp, hspell]
        rfl

/-- **A string is read back.** -/
theorem scan_chars (q : Quoted) (rest : List Char) :
    ∃ cs, q.chars ++ rest = '"' :: cs ∧ scan cs = some (q, rest) := by
  cases q with
  | text s =>
      obtain ⟨ps, hscan, hspell⟩ := scanPieces_flatMap_escape s.toList rest
      refine ⟨s.toList.flatMap escape ++ '"' :: rest, by simp [chars], ?_⟩
      simp [scan, hscan, hspell]
  | unpaired => exact ⟨_, rfl, rfl⟩

end Quoted

/-! ### Tokens -/

section Tokens

variable {cs rest : List Char} {t : Token}

theorem eq_of_isSpace {c : Char} (hc : isSpace c = true) :
    c = ' ' ∨ c = '\n' ∨ c = '\t' ∨ c = '\r' := by
  simpa only [isSpace, Bool.or_eq_true, decide_eq_true_eq, or_assoc] using hc

/-- A token does not start with a blank. -/
theorem token?_of_isSpace {c : Char} (hc : isSpace c = true) : token? (c :: rest) = none := by
  rcases eq_of_isSpace hc with rfl | rfl | rfl | rfl <;> rfl

theorem tokens_of_token? (h : token? cs = some (t, rest)) :
    tokens cs = (tokens rest).map (t :: ·) := by
  cases cs with
  | nil => cases h
  | cons c cs =>
      have hc : isSpace c = false := by
        refine Bool.eq_false_iff.2 fun hspace => ?_
        rw [token?_of_isSpace hspace] at h
        cases h
      rw [tokens, hc]
      simp only [Bool.false_eq_true, if_false]
      split
      · rename_i hnone
        rw [h] at hnone
        cases hnone
      · rename_i t' rest' hsome
        rw [h] at hsome
        cases hsome
        rfl

/-- Blanks before a text are dropped. -/
theorem tokens_append_of_isSpace (hspaces : ∀ c ∈ cs, isSpace c = true) :
    tokens (cs ++ rest) = tokens rest := by
  induction cs with
  | nil => rfl
  | cons c cs ih =>
      obtain ⟨hc, hcs⟩ := List.forall_mem_cons.1 hspaces
      rw [List.cons_append, tokens, hc, if_pos rfl, ih hcs]

theorem tokens_of_isSpace (hspaces : ∀ c ∈ cs, isSpace c = true) : tokens cs = some [] := by
  have h : tokens (cs ++ []) = tokens [] := tokens_append_of_isSpace hspaces
  rw [List.append_nil] at h
  rw [h, tokens]

theorem tokens_quoted (q : Quoted) (rest : List Char) :
    tokens (q.chars ++ rest) = (tokens rest).map (.string q :: ·) := by
  obtain ⟨cs, htext, hscan⟩ := q.scan_chars rest
  refine tokens_of_token? ?_
  rw [htext]
  simp [token?, punctuation?, hscan]

/-- A text that starts like a number can only be one. -/
theorem token?_of_number {c : Char} (hc : c.isDigit = true ∨ c = '-') :
    token? (c :: rest) = (scanNumber (c :: rest)).map fun r => (.scalar r.1, r.2) := by
  have hne : ∀ d : Char, d.isDigit = false → d ≠ '-' → c ≠ d := by
    rintro d hdigit hminus rfl
    rcases hc with hc | hc
    · rw [hdigit] at hc
      cases hc
    · exact hminus hc
  have hmark : punctuation? c = none := by
    unfold punctuation?
    split <;> first | rfl | exact absurd rfl (hne _ (by decide) (by decide))
  have hliteral : literal? (c :: rest) = none := by
    unfold literal?
    split <;> first | rfl | (rename_i h; cases h; exact absurd rfl (hne _ (by decide) (by decide)))
  simp [token?, hmark, hliteral, hne '"' (by decide) (by decide)]

theorem intChars_head (z : Int) :
    ∃ c cs, intChars z = c :: cs ∧ (c.isDigit = true ∨ c = '-') := by
  cases z with
  | ofNat n =>
      obtain ⟨c, digits, hn, hdigit⟩ := toDigits_eq_cons n
      exact ⟨c, digits, hn, .inl hdigit⟩
  | negSucc n => exact ⟨'-', _, rfl, .inr rfl⟩

theorem tokens_integer (z : Int) (hstops : Stops rest) :
    tokens (intChars z ++ rest) = (tokens rest).map (.scalar (.integer z) :: ·) := by
  refine tokens_of_token? ?_
  have hscan := scanNumber_intChars z hstops
  obtain ⟨c, cs, htext, hc⟩ := intChars_head z
  rw [htext, List.cons_append] at hscan ⊢
  rw [token?_of_number hc, hscan]
  rfl

theorem tokens_otherNumber (hstops : Stops rest) :
    tokens ('0' :: '.' :: '0' :: rest) = (tokens rest).map (.scalar .otherNumber :: ·) := by
  refine tokens_of_token? ?_
  have hzero : scanDigits ('0' :: rest) = (['0'], rest) :=
    @scanDigits_append ['0'] rest (by simp) hstops
  rw [token?_of_number (.inl rfl)]
  have hfraction : scanFraction ('.' :: '0' :: rest) = some (true, rest) := by
    simp [scanFraction, hzero]
  have hdigits : scanDigits ('0' :: '.' :: '0' :: rest) = (['0'], '.' :: '0' :: rest) := rfl
  simp [scanNumber, scanMagnitude, hdigits, isIntegerPart, hfraction, scanExponent_of_stops hstops,
    numberValue]

end Tokens

/-! ### Values -/

/-- Induction over a value and its parts. -/
theorem inductionOn {P : Json → Prop}
    (scalar : ∀ j, (∀ items, j ≠ .array items) → (∀ members, j ≠ .object members) → P j)
    (array : ∀ items, (∀ j ∈ items, P j) → P (.array items))
    (object : ∀ members, (∀ m ∈ members, P m.2) → P (.object members)) : ∀ j, P j
  | .array items => array items fun j _ => inductionOn scalar array object j
  | .object members => object members fun (key, j) hm =>
      have : sizeOf j < sizeOf members := by
        have hlt := List.sizeOf_lt_of_mem hm
        rw [Prod.mk.sizeOf_spec] at hlt
        omega
      inductionOn scalar array object j
  | .null => scalar _ nofun nofun
  | .bool _ => scalar _ nofun nofun
  | .integer _ => scalar _ nofun nofun
  | .otherNumber => scalar _ nofun nofun
  | .string _ => scalar _ nofun nofun

mutual

/-- The tokens of a value. -/
def lexemes : Json → List Token
  | array items => .openArray :: itemLexemes items ++ [.closeArray]
  | object members => .openObject :: memberLexemes members ++ [.closeObject]
  | string q => [.string q]
  | scalar => [.scalar scalar]

/-- The tokens of the items of an array. -/
def itemLexemes : List Json → List Token
  | [] => []
  | [j] => j.lexemes
  | j :: k :: rest => j.lexemes ++ .comma :: itemLexemes (k :: rest)

/-- The tokens of the members of an object. -/
def memberLexemes : List (Quoted × Json) → List Token
  | [] => []
  | [(key, j)] => .string key :: .colon :: j.lexemes
  | (key, j) :: m :: rest =>
      .string key :: .colon :: j.lexemes ++ .comma :: memberLexemes (m :: rest)

end

/-! #### From text to tokens -/

/-- A text is cut into tokens, whatever follows that does not go on with a number. -/
def CutsInto (cs : List Char) (ts : List Token) : Prop :=
  ∀ rest, Stops rest → tokens (cs ++ rest) = (tokens rest).map (ts ++ ·)

section Cutting

variable {cs ds : List Char} {ts us : List Token} {c : Char} {t : Token}

theorem CutsInto.append (h : CutsInto cs ts) (h' : CutsInto (c :: ds) us)
    (hc : extendsNumber c = false) : CutsInto (cs ++ c :: ds) (ts ++ us) := by
  intro rest hstops
  have hfirst := h (c :: ds ++ rest) (stops_cons hc)
  rw [List.append_assoc, hfirst, h' rest hstops, Option.map_map]
  congr 1
  funext more
  simp

theorem cutsInto_nil : CutsInto [] [] := by
  intro rest _
  simp

theorem CutsInto.cons (hc : punctuation? c = some t) (h : CutsInto ds us) :
    CutsInto (c :: ds) (t :: us) := by
  intro rest hstops
  have htoken : token? (c :: (ds ++ rest)) = some (t, ds ++ rest) := by
    simp [token?, hc]
  rw [List.cons_append, tokens_of_token? htoken, h rest hstops, Option.map_map]
  rfl

theorem cutsInto_quoted (q : Quoted) : CutsInto q.chars [.string q] := by
  intro rest _
  exact tokens_quoted q rest

theorem cutsInto_scalar (j : Json) (harray : ∀ items, j ≠ .array items)
    (hobject : ∀ members, j ≠ .object members) : CutsInto j.chars j.lexemes := by
  intro rest hstops
  cases j with
  | null => exact tokens_of_token? rfl
  | bool b => cases b <;> exact tokens_of_token? rfl
  | integer z => exact tokens_integer z hstops
  | otherNumber => exact tokens_otherNumber hstops
  | string q => exact tokens_quoted q rest
  | array items => exact absurd rfl (harray items)
  | object members => exact absurd rfl (hobject members)

theorem cutsInto_items {items : List Json} (h : ∀ j ∈ items, CutsInto j.chars j.lexemes) :
    CutsInto (itemChars items) (itemLexemes items) := by
  induction items with
  | nil => exact cutsInto_nil
  | cons j items ih =>
      obtain ⟨hj, hitems⟩ := List.forall_mem_cons.1 h
      cases items with
      | nil => exact hj
      | cons k items => exact hj.append ((ih hitems).cons rfl) rfl

theorem cutsInto_members {members : List (Quoted × Json)}
    (h : ∀ m ∈ members, CutsInto m.2.chars m.2.lexemes) :
    CutsInto (memberChars members) (memberLexemes members) := by
  induction members with
  | nil => exact cutsInto_nil
  | cons m members ih =>
      obtain ⟨hm, hmembers⟩ := List.forall_mem_cons.1 h
      have hvalue : CutsInto (':' :: m.2.chars) (.colon :: m.2.lexemes) := hm.cons rfl
      have hmember := (cutsInto_quoted m.1).append hvalue rfl
      cases members with
      | nil => exact hmember
      | cons n members => exact hmember.append ((ih hmembers).cons rfl) rfl

/-- **The text of a value is cut into the tokens of the value.** -/
theorem cutsInto_chars (j : Json) : CutsInto j.chars j.lexemes := by
  induction j using inductionOn with
  | scalar j harray hobject => exact cutsInto_scalar j harray hobject
  | array items ih =>
      have hclose : CutsInto [']'] [.closeArray] := cutsInto_nil.cons rfl
      exact ((cutsInto_items ih).append hclose rfl).cons rfl
  | object members ih =>
      have hclose : CutsInto ['\x7d'] [.closeObject] := cutsInto_nil.cons rfl
      exact ((cutsInto_members ih).append hclose rfl).cons rfl

/-- Blanks before a text are not tokens. -/
theorem CutsInto.after_blanks (h : CutsInto ds us) (hspaces : ∀ c ∈ cs, isSpace c = true) :
    CutsInto (cs ++ ds) us := by
  intro rest hstops
  rw [List.append_assoc, tokens_append_of_isSpace hspaces, h rest hstops]

theorem isSpace_of_mem_newLine {depth : Nat} (h : c ∈ newLine depth) : isSpace c = true := by
  rcases List.mem_cons.1 h with rfl | h
  · rfl
  · rw [List.eq_of_mem_replicate h]
    rfl

theorem CutsInto.after_newLine (h : CutsInto ds us) (depth : Nat) :
    CutsInto (newLine depth ++ ds) us :=
  h.after_blanks fun _ => isSpace_of_mem_newLine

/-- A text goes on in a new line. -/
theorem CutsInto.append_line (h : CutsInto cs ts) (h' : CutsInto ds us) (depth : Nat) :
    CutsInto (cs ++ (newLine depth ++ ds)) (ts ++ us) :=
  h.append (h'.after_newLine depth) rfl

/-- The items of an array in several lines, and what follows them in a new line. -/
theorem cutsInto_prettyItems {j : Json} {items : List Json} {depth : Nat}
    (h : ∀ k ∈ j :: items, CutsInto (k.prettyChars depth) k.lexemes) (hend : CutsInto ds us)
    (outer : Nat) :
    CutsInto (j.prettyChars depth ++ (prettyItems depth items ++ (newLine outer ++ ds)))
      (itemLexemes (j :: items) ++ us) := by
  induction items generalizing j with
  | nil => exact (h j List.mem_cons_self).append_line hend outer
  | cons k items ih =>
      obtain ⟨hj, hitems⟩ := List.forall_mem_cons.1 h
      simp only [prettyItems, itemLexemes, List.cons_append, List.append_assoc]
      exact hj.append (((ih hitems).after_newLine depth).cons rfl) rfl

/-- A key and its value on one line. -/
theorem cutsInto_prettyMember (key : Quoted) (h : CutsInto ds us) :
    CutsInto (key.chars ++ ':' :: ' ' :: ds) (.string key :: .colon :: us) := by
  have hblank : CutsInto ([' '] ++ ds) us := by
    refine h.after_blanks fun c hc => ?_
    rw [List.mem_singleton.1 hc]
    rfl
  exact (cutsInto_quoted key).append (hblank.cons rfl) rfl

/-- The members of an object in several lines, and what follows them in a new line. -/
theorem cutsInto_prettyMembers {m : Quoted × Json} {members : List (Quoted × Json)}
    {depth : Nat} (h : ∀ n ∈ m :: members, CutsInto (n.2.prettyChars depth) n.2.lexemes)
    (hend : CutsInto ds us) (outer : Nat) :
    CutsInto (m.1.chars ++ ':' :: ' ' :: (m.2.prettyChars depth ++
        (prettyMembers depth members ++ (newLine outer ++ ds))))
      (memberLexemes (m :: members) ++ us) := by
  induction members generalizing m with
  | nil =>
      exact cutsInto_prettyMember m.1 ((h m List.mem_cons_self).append_line hend outer)
  | cons n members ih =>
      obtain ⟨hm, hmembers⟩ := List.forall_mem_cons.1 h
      simp only [prettyMembers, memberLexemes, List.cons_append, List.append_assoc]
      refine cutsInto_prettyMember m.1 (hm.append ?_ rfl)
      exact ((ih hmembers).after_newLine depth).cons rfl

/-- **The text of a value in several lines is cut into the same tokens.** -/
theorem cutsInto_prettyChars (j : Json) (depth : Nat) :
    CutsInto (j.prettyChars depth) j.lexemes := by
  induction j using inductionOn generalizing depth with
  | scalar j harray hobject =>
      have htext : j.prettyChars depth = j.chars := by
        cases j with
        | array items => exact absurd rfl (harray items)
        | object members => exact absurd rfl (hobject members)
        | _ => rfl
      rw [htext]
      exact cutsInto_scalar j harray hobject
  | array items ih =>
      have hclose : CutsInto [']'] [.closeArray] := cutsInto_nil.cons rfl
      cases items with
      | nil => exact hclose.cons rfl
      | cons j items =>
          have hitems := cutsInto_prettyItems (fun k hk => ih k hk (depth + 1)) hclose depth
          simp only [prettyChars, lexemes, List.cons_append, List.append_assoc]
          exact (hitems.after_newLine (depth + 1)).cons rfl
  | object members ih =>
      have hclose : CutsInto ['\x7d'] [.closeObject] := cutsInto_nil.cons rfl
      cases members with
      | nil => exact hclose.cons rfl
      | cons m members =>
          have hmembers := cutsInto_prettyMembers (fun n hn => ih n hn (depth + 1)) hclose depth
          simp only [prettyChars, lexemes, List.cons_append, List.append_assoc]
          exact (hmembers.after_newLine (depth + 1)).cons rfl

end Cutting

/-! #### From tokens to values -/

section Reading

variable {frames : List Frame} {rest : List Token}

/-- Some tokens are read as a value, inside any open frames and before any other tokens. -/
def ReadsAs (ts : List Token) (j : Json) : Prop :=
  ∀ frames rest, readValue frames (ts ++ rest) = readAfter j frames rest

/-- The items of an array do not start with its end. -/
theorem itemLexemes_ne_closeArray (j : Json) (items : List Json) (ts : List Token) :
    itemLexemes (j :: items) ++ ts ≠ .closeArray :: rest := by
  cases items <;> cases j <;> simp [itemLexemes, lexemes]

theorem readValue_openArray {ts : List Token} (h : ∀ rest, ts ≠ .closeArray :: rest) :
    readValue frames (.openArray :: ts) = readValue (.array [] :: frames) ts := by
  cases ts with
  | nil => rfl
  | cons t ts => cases t <;> first | rfl | exact absurd rfl (h _)

theorem readsAs_items {j : Json} {items : List Json}
    (h : ∀ k ∈ j :: items, ReadsAs k.lexemes k) (before : List Json) :
    readValue (.array before :: frames) (itemLexemes (j :: items) ++ .closeArray :: rest) =
      readAfter (.array (before.reverse ++ j :: items)) frames rest := by
  induction items generalizing j before with
  | nil =>
      have hj := h j List.mem_cons_self
      rw [itemLexemes, hj, readAfter, List.reverse_cons]
  | cons k items ih =>
      obtain ⟨hj, hitems⟩ := List.forall_mem_cons.1 h
      rw [itemLexemes, List.append_assoc, hj, List.cons_append, readAfter, ih hitems]
      simp

theorem readsAs_members {m : Quoted × Json} {members : List (Quoted × Json)}
    (h : ∀ n ∈ m :: members, ReadsAs n.2.lexemes n.2) (before : List (Quoted × Json)) :
    ∃ ts, memberLexemes (m :: members) ++ .closeObject :: rest = .string m.1 :: .colon :: ts ∧
      readValue (.object before m.1 :: frames) ts =
        readAfter (.object (before.reverse ++ m :: members)) frames rest := by
  induction members generalizing m before with
  | nil =>
      have hm := h m List.mem_cons_self
      refine ⟨m.2.lexemes ++ .closeObject :: rest, rfl, ?_⟩
      rw [hm, readAfter, List.reverse_cons]
  | cons n members ih =>
      obtain ⟨hm, hmembers⟩ := List.forall_mem_cons.1 h
      obtain ⟨ts, hts, hread⟩ := ih hmembers (m :: before)
      refine ⟨m.2.lexemes ++ .comma :: .string n.1 :: .colon :: ts, ?_, ?_⟩
      · rw [← hts]
        simp [memberLexemes]
      · rw [hm, readAfter, hread]
        simp

/-- **The tokens of a value are read as the value.** -/
theorem readsAs_lexemes (j : Json) : ReadsAs j.lexemes j := by
  induction j using inductionOn with
  | scalar j harray hobject =>
      intro frames rest
      cases j with
      | array items => exact absurd rfl (harray items)
      | object members => exact absurd rfl (hobject members)
      | _ => rfl
  | array items ih =>
      intro frames rest
      cases items with
      | nil => rfl
      | cons j items =>
          have hopen : readValue frames
              (.openArray :: (itemLexemes (j :: items) ++ .closeArray :: rest)) =
              readValue (.array [] :: frames) (itemLexemes (j :: items) ++ .closeArray :: rest) :=
            readValue_openArray fun more => itemLexemes_ne_closeArray j items (.closeArray :: rest)
          rw [lexemes, List.cons_append, List.cons_append, List.append_assoc, List.singleton_append]
          exact hopen.trans (readsAs_items ih [])
  | object members ih =>
      intro frames rest
      cases members with
      | nil => rfl
      | cons m members =>
          obtain ⟨ts, hts, hread⟩ := @readsAs_members frames rest m members ih []
          rw [lexemes, List.cons_append, List.cons_append, List.append_assoc, List.singleton_append,
            hts]
          exact hread

end Reading

section Texts

variable {before after : String}

/-- A text that is cut into the tokens of a value is read as that value, with blanks around it. -/
theorem parse?_of_cutsInto {j : Json} {cs : List Char} (h : CutsInto cs j.lexemes)
    (hbefore : ∀ c ∈ before.toList, isSpace c = true)
    (hafter : ∀ c ∈ after.toList, isSpace c = true) :
    parse? (before ++ String.ofList cs ++ after) = some j := by
  have hstops : Stops after.toList := by
    intro c hc
    have hspace := eq_of_isSpace (hafter c (List.mem_of_mem_head? hc))
    rcases hspace with rfl | rfl | rfl | rfl <;> rfl
  have htokens : tokens (before ++ String.ofList cs ++ after).toList = some j.lexemes := by
    rw [String.toList_append, String.toList_append, List.append_assoc,
      tokens_append_of_isSpace hbefore, String.toList_ofList, h _ hstops, tokens_of_isSpace hafter]
    simp
  have hread := readsAs_lexemes j [] []
  rw [List.append_nil] at hread
  rw [parse?, htokens]
  exact hread

/-- **The compact text of every value, with blanks around it, is read as that value.** -/
theorem parse?_compact (j : Json) (hbefore : ∀ c ∈ before.toList, isSpace c = true)
    (hafter : ∀ c ∈ after.toList, isSpace c = true) :
    parse? (before ++ j.compact ++ after) = some j :=
  parse?_of_cutsInto (cutsInto_chars j) hbefore hafter

/-- **So is the text in several lines.** -/
theorem parse?_pretty (j : Json) (hbefore : ∀ c ∈ before.toList, isSpace c = true)
    (hafter : ∀ c ∈ after.toList, isSpace c = true) :
    parse? (before ++ j.pretty ++ after) = some j :=
  parse?_of_cutsInto (cutsInto_prettyChars j 0) hbefore hafter

end Texts

end Offload.Json
