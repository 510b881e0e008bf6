/-
**Decimal numerals.**

A numeral is an optional sign and at least one decimal digit.  It is read from left to right: a
character that is no digit is refused when it is reached, and a value that leaves the range of its
type is refused as soon as it does, so the first trouble decides.

Main definitions:

* `Offload.Text.Numeral.Fault` — why a text is no numeral of its type;
* `Offload.Text.Numeral.natural` — a number from zero up to a limit, a plus sign being allowed;
* `Offload.Text.Numeral.int32` — a signed number of 32 bits.
-/

set_option autoImplicit false

namespace Offload.Text.Numeral

/-- Why a text is not a numeral of the wanted type. -/
inductive Fault where
  | empty
  | invalidDigit
  | tooLarge
  | tooSmall
deriving DecidableEq, Repr

/-- The words for a fault. -/
def Fault.message : Fault → String
  | empty => "cannot parse integer from empty string"
  | invalidDigit => "invalid digit found in string"
  | tooLarge => "number too large to fit in target type"
  | tooSmall => "number too small to fit in target type"

/-- The value of a decimal digit. -/
def digitValue (c : Char) : Nat :=
  c.toNat - '0'.toNat

/-- Reads digits up to a limit, `value` being that of the digits before them. -/
def digits (limit : Nat) (overflow : Fault) : Nat → List Char → Except Fault Nat
  | value, [] => .ok value
  | value, c :: rest =>
      if c.isDigit then
        if value * 10 + digitValue c ≤ limit then
          digits limit overflow (value * 10 + digitValue c) rest
        else .error overflow
      else .error .invalidDigit

/-- Reads at least one digit up to a limit. -/
def magnitude (limit : Nat) (overflow : Fault) : List Char → Except Fault Nat
  | [] => .error .invalidDigit
  | cs => digits limit overflow 0 cs

/-- Reads a number from zero to a limit; a plus sign may stand before it. -/
def natural (limit : Nat) (s : String) : Except Fault Nat :=
  match s.toList with
  | [] => .error .empty
  | '+' :: rest => magnitude limit .tooLarge rest
  | cs => magnitude limit .tooLarge cs

/-- Reads a signed number of 32 bits. -/
def int32 (s : String) : Except Fault Int32 :=
  match s.toList with
  | [] => .error .empty
  | '-' :: rest => (magnitude 0x80000000 .tooSmall rest).map fun n => Int32.ofInt (-(n : Int))
  | '+' :: rest => (magnitude 0x7fffffff .tooLarge rest).map fun n => Int32.ofInt n
  | cs => (magnitude 0x7fffffff .tooLarge cs).map fun n => Int32.ofInt n

end Offload.Text.Numeral
