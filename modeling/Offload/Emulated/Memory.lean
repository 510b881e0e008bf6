/-
**The memory of the emulated device.**

Memory is a list of buffers, each with the address that it was given, in the order of allocation.
Addresses come from a counter that only grows, in steps of 256 bytes, so no address is ever given
out twice.  A fresh buffer is filled with a byte that makes unwritten results visible.

A buffer is an array, so that a thread of a kernel pays for the element that it touches and not for
the whole buffer.  What an operation does is said about the list of its bytes.

Main definitions:

* `Offload.Memory` — buffers and the address counter;
* `Offload.Memory.allocate`, `Offload.Memory.release` — new and old buffers;
* `Offload.Memory.bytes`, `Offload.Memory.update` — the contents of a buffer, and a change to them;
* `Offload.Memory.read`, `Offload.Memory.write` — access to one element of an array;
* `Offload.Memory.used` — the number of bytes in all buffers;
* `Offload.Memory.answer`, `Offload.Kernel.run` — a kernel computation on a memory.

Main results:

* `Offload.Memory.toList_splice` — overwriting part of a buffer, as an equation between lists.
-/

import Offload.Kernel

set_option autoImplicit false

namespace Offload

/-- A live allocation. -/
structure Buffer where
  address : Address
  bytes : Array UInt8
deriving DecidableEq, Repr

/-- Byte-addressed memory. -/
structure Memory where
  /-- The live allocations, in the order in which they were made. -/
  buffers : List Buffer := []
  /-- The next address to give out; zero before the first allocation. -/
  next : Nat := 0
deriving DecidableEq, Repr, Inhabited

namespace Memory

/-- The first address that is given out. -/
def base : Nat := 0x7f0000000000

/-- Addresses are multiples of this. -/
def alignment : Nat := 256

/-- The byte in a fresh buffer. -/
def poison : UInt8 := 0xcd

/-- The most bytes that a buffer can have. -/
def largestBuffer : Nat := Word.largestBlock

/-- The address range that an allocation takes: a positive multiple of the alignment. -/
def span (size : Nat) : Outcome Nat := do
  let padded ← Word.add (max size 1) alignment
  pure ((padded - 1) / alignment * alignment)

/-- The address of the next allocation. -/
def frontier (m : Memory) : Nat :=
  if m.next = 0 then base else m.next

/-- Makes a buffer.  The counter moves before the buffer is made, so it stays moved when the buffer
turns out to be too large. -/
def allocate (m : Memory) (size : Nat) : Outcome Address × Memory :=
  let address := m.frontier
  match span size >>= Word.add address with
  | .ok next =>
      if size ≤ largestBuffer then
        (.ok (Address.ofNat address),
          ⟨m.buffers ++ [⟨Address.ofNat address, Array.replicate size poison⟩], next⟩)
      else (.panic .capacityOverflow, { m with next })
  | .error e => (.error e, { m with next := address })
  | .panic p => (.panic p, { m with next := address })

/-- The buffer at an address. -/
def find? (m : Memory) (address : Address) : Option Buffer :=
  m.buffers.find? fun b => b.address = address

/-- The contents of the buffer at an address. -/
def bytes (m : Memory) (address : Address) : Outcome (Array UInt8) :=
  match m.find? address with
  | some b => .ok b.bytes
  | none => .error (.invalidHandle address)

/-- The size of the buffer at an address, if there is one. -/
def size? (m : Memory) (address : Address) : Option Nat :=
  (m.find? address).map fun b => b.bytes.size

/-- The size of the buffer at an address. -/
def size (m : Memory) (address : Address) : Outcome Nat :=
  match m.size? address with
  | some size => .ok size
  | none => .error (.invalidHandle address)

/-- Removes the buffer at an address, if there is one. -/
def release (m : Memory) (address : Address) : Option Memory :=
  match m.find? address with
  | some _ => some { m with buffers := m.buffers.filter fun b => b.address ≠ address }
  | none => none

/-- Changes the contents of the buffer at an address. -/
def update (m : Memory) (address : Address) (f : Array UInt8 → Array UInt8) : Memory :=
  { m with buffers := m.buffers.map fun b =>
      if b.address = address then { b with bytes := f b.bytes } else b }

/-- Replaces the contents of the buffer at an address. -/
def replace (m : Memory) (address : Address) (bytes : List UInt8) : Memory :=
  m.update address fun _ => bytes.toArray

/-- Where an element lies in a buffer of a given size: its first byte, if it lies inside. -/
def offset (width index size : Nat) : Outcome Nat := do
  let start ← Word.mul index width
  let stop ← Word.add start width
  if stop ≤ size then pure start else .error (.sizeMismatch stop size)

/-- The bytes of an element of an array. -/
def read (m : Memory) (address : Address) (width index : Nat) : Outcome (List UInt8) := do
  let buffer ← m.bytes address
  let start ← offset width index buffer.size
  pure (buffer.extract start (start + width)).toList

/-- Some bytes of a buffer replaced, from a given position on. -/
def splice (buffer : Array UInt8) (start : Nat) : List UInt8 → Array UInt8
  | [] => buffer
  | byte :: rest => splice (buffer.setIfInBounds start byte) (start + 1) rest

/-- Overwrites an element of an array.  The place of the element is found first, so the memory stays
as it is unless the write succeeds. -/
def write (m : Memory) (address : Address) (index : Nat) (bytes : List UInt8) :
    Outcome Unit × Memory :=
  match m.size address >>= offset bytes.length index with
  | .ok start => (.ok (), m.update address fun buffer => splice buffer start bytes)
  | .error e => (.error e, m)
  | .panic p => (.panic p, m)

/-- The number of bytes in all buffers. -/
def used (m : Memory) : Outcome Nat :=
  Word.sum (m.buffers.map fun b => b.bytes.size)

/-- Answers a kernel. -/
def answer (m : Memory) : (q : Access) → Outcome q.Answer × Memory
  | .size address => (.ok (m.size? address), m)
  | .read address width index => (m.read address width index, m)
  | .write address index bytes => m.write address index bytes

/-! ### Small facts -/

@[simp] theorem size_splice (buffer : Array UInt8) (start : Nat) (bytes : List UInt8) :
    (splice buffer start bytes).size = buffer.size := by
  induction bytes generalizing buffer start with
  | nil => rfl
  | cons byte rest ih => simp [splice, ih]

/-- Overwriting keeps what lies before and after the bytes that are written. -/
theorem toList_splice {buffer : Array UInt8} {start : Nat} {bytes : List UInt8}
    (h : start + bytes.length ≤ buffer.size) :
    (splice buffer start bytes).toList =
      buffer.toList.take start ++ bytes ++ buffer.toList.drop (start + bytes.length) := by
  induction bytes generalizing buffer start with
  | nil => simp [splice]
  | cons byte rest ih =>
      have inside : start < buffer.toList.length := by
        simp only [List.length_cons] at h
        simp only [Array.length_toList]
        omega
      have fits : start + 1 + rest.length ≤ (buffer.setIfInBounds start byte).size := by
        simp only [List.length_cons] at h
        simp only [Array.size_setIfInBounds]
        omega
      rw [splice, ih fits, Array.toList_setIfInBounds, List.take_succ_eq_append_getElem (by simpa),
        List.take_set_of_le (Nat.le_refl start), List.getElem_set_self,
        List.drop_set_of_lt (by omega)]
      simp [Nat.add_assoc, Nat.add_comm 1]

@[simp] theorem update_next (m : Memory) (address : Address) (f : Array UInt8 → Array UInt8) :
    (m.update address f).next = m.next := rfl

@[simp] theorem replace_next (m : Memory) (address : Address) (bytes : List UInt8) :
    (m.replace address bytes).next = m.next := rfl

end Memory

/-- Runs a kernel computation on a memory. -/
def Kernel.run {α : Type} : Kernel α → Memory → Outcome α × Memory
  | .done a, m => (.ok a, m)
  | .fail e, m => (.error e, m)
  | .panic p, m => (.panic p, m)
  | .ask q next, m =>
      match m.answer q with
      | (.ok a, m) => run (next (.ok a)) m
      | (.error e, m) => run (next (.error e)) m
      | (.panic p, m) => (.panic p, m)

end Offload
