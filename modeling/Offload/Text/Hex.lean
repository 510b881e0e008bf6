/-
**Hexadecimal text.**

Numbers and byte strings in hexadecimal.  Digits are written in lower case and read in either case.

Main definitions:

* `Offload.Text.Hex.digit?` — the value of a digit;
* `Offload.Text.Hex.number` — a number after `0x`, with at least a given number of digits;
* `Offload.Text.Hex.bytes` — a byte string, two digits a byte.
-/

set_option autoImplicit false

namespace Offload.Text.Hex

/-- The value of a hexadecimal digit of either case. -/
def digit? (c : Char) : Option Nat :=
  if '0' ≤ c ∧ c ≤ '9' then some (c.toNat - '0'.toNat)
  else if 'a' ≤ c ∧ c ≤ 'f' then some (c.toNat - 'a'.toNat + 10)
  else if 'A' ≤ c ∧ c ≤ 'F' then some (c.toNat - 'A'.toNat + 10)
  else none

/-- A number after `0x`, with leading zeros up to a given number of digits. -/
def number (width n : Nat) : String :=
  let digits := Nat.toDigits 16 n
  "0x" ++ String.ofList (List.replicate (width - digits.length) '0' ++ digits)

/-- A byte in two digits. -/
def byte (b : UInt8) : List Char :=
  [Nat.digitChar (b.toNat / 16), Nat.digitChar (b.toNat % 16)]

/-- A byte string. -/
def bytes (bs : List UInt8) : String :=
  String.ofList (bs.flatMap byte)

end Offload.Text.Hex
