/-
**Device addresses.**

A device hands out memory by address.  The host never follows such an address: it only compares
addresses, passes them back to the device and prints them.

Main definitions:

* `Offload.Address` — the address of the first byte of an allocation, a 64-bit word;
* `Offload.Address.text` — the printed form, `0x7f0000000000`.
-/

import Offload.Text.Hex

set_option autoImplicit false

namespace Offload

/-- The handle of an allocation on a device: the address of its first byte. -/
structure Address where
  raw : UInt64
deriving DecidableEq, Repr, Inhabited

/-- The address with a given number; only the low 64 bits count. -/
def Address.ofNat (n : Nat) : Address :=
  ⟨UInt64.ofNat n⟩

/-- The number of an address. -/
def Address.toNat (a : Address) : Nat :=
  a.raw.toNat

/-- An address as it is printed in messages and log lines. -/
def Address.text (a : Address) : String :=
  Text.Hex.number 1 a.toNat

theorem Address.toNat_lt (a : Address) : a.toNat < UInt64.size :=
  a.raw.toNat_lt_size

@[simp] theorem Address.ofNat_toNat (a : Address) : Address.ofNat a.toNat = a := by
  simp [Address.ofNat, Address.toNat]

theorem Address.toNat_ofNat {n : Nat} (h : n < UInt64.size) : (Address.ofNat n).toNat = n := by
  simp only [Address.ofNat, Address.toNat, UInt64.toNat_ofNat']
  exact Nat.mod_eq_of_lt h

end Offload
