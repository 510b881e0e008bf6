/-
**Outcomes and machine words.**

A call ends in one of three ways: with a value, with a failure, or with a panic.  Sizes and indices
are natural numbers here; where the machine would compute them in a 64-bit word, the exact result is
checked against the range of the word and the computation panics beyond it.

Main definitions:

* `Offload.Outcome` — the three endings, a monad that stops at the first failure or panic;
* `Offload.Word.add`, `Offload.Word.mul`, `Offload.Word.sum` — word arithmetic that panics on
  overflow;
* `Offload.Word.saturate` — the nearest number that fits in a word.

Main results:

* `Offload.Outcome.bind_eq_ok` — a sequence ends with a value iff both of its parts do;
* `Offload.Word.add_eq_ok_iff`, `Offload.Word.mul_eq_ok_iff` — when word arithmetic is exact.
-/

import Offload.Failure

set_option autoImplicit false

namespace Offload

universe u

/-- How a call ends. -/
inductive Outcome (α : Type u) where
  /-- It returns a value. -/
  | ok (value : α)
  /-- It returns a failure. -/
  | error (cause : Failure)
  /-- It does not return: the panic unwinds to whoever catches it. -/
  | panic (cause : Panic)
deriving DecidableEq, Repr

namespace Outcome

variable {α β : Type u}

/-- Goes on with the value of a call that returned one. -/
def bind (x : Outcome α) (f : α → Outcome β) : Outcome β :=
  match x with
  | ok a => f a
  | error e => error e
  | panic p => panic p

instance : Monad Outcome where
  pure := ok
  bind := bind

/-- Whether a call returned, with a value or a failure. -/
def returns : Outcome α → Bool
  | panic _ => false
  | _ => true

@[simp] theorem pure_eq (a : α) : (pure a : Outcome α) = ok a := rfl

@[simp] theorem ok_bind (a : α) (f : α → Outcome β) : (ok a >>= f) = f a := rfl

@[simp] theorem error_bind (e : Failure) (f : α → Outcome β) : (error e >>= f) = error e := rfl

@[simp] theorem panic_bind (p : Panic) (f : α → Outcome β) : (panic p >>= f) = panic p := rfl

/-- A sequence ends with a value iff both of its parts do. -/
theorem bind_eq_ok {x : Outcome α} {f : α → Outcome β} {b : β} :
    (x >>= f) = ok b ↔ ∃ a, x = ok a ∧ f a = ok b := by
  cases x <;> simp

/-- A sequence fails iff its first part fails, or its second part after the first. -/
theorem bind_eq_error {x : Outcome α} {f : α → Outcome β} {e : Failure} :
    (x >>= f) = error e ↔ x = error e ∨ ∃ a, x = ok a ∧ f a = error e := by
  cases x <;> simp

instance : LawfulMonad Outcome :=
  LawfulMonad.mk' Outcome (fun x => by cases x <;> rfl) (fun _ _ => rfl)
    (fun x _ _ => by cases x <;> rfl)

end Outcome

/-! ### Machine words -/

namespace Word

/-- The number of different machine words. -/
def bound : Nat := UInt64.size

/-- The largest machine word. -/
def max : Nat := bound - 1

/-- The most bytes that one block of host memory can have. -/
def largestBlock : Nat := bound / 2 - 1

/-- A sum in a machine word. -/
def add (a b : Nat) : Outcome Nat :=
  if a + b < bound then .ok (a + b) else .panic .addOverflow

/-- A product in a machine word. -/
def mul (a b : Nat) : Outcome Nat :=
  if a * b < bound then .ok (a * b) else .panic .mulOverflow

/-- The exact sum of a list. -/
def total : List Nat → Nat
  | [] => 0
  | n :: rest => n + total rest

/-- The sum of a list in a machine word.  Partial sums only grow, so the order of the list does not
decide whether they fit. -/
def sum (l : List Nat) : Outcome Nat :=
  if total l < bound then .ok (total l) else .panic .addOverflow

/-- The nearest number that fits in a machine word. -/
def saturate (n : Nat) : Nat :=
  min n max

@[simp] theorem total_nil : total [] = 0 := rfl

@[simp] theorem total_cons (n : Nat) (l : List Nat) : total (n :: l) = n + total l := rfl

@[simp] theorem total_append (l l' : List Nat) : total (l ++ l') = total l + total l' := by
  induction l with
  | nil => simp
  | cons n l ih => simp [ih, Nat.add_assoc]

theorem add_eq_ok_iff {a b c : Nat} : add a b = .ok c ↔ a + b < bound ∧ c = a + b := by
  unfold add
  split <;> rename_i h
  · simp [h, eq_comm]
  · simp [h]

theorem mul_eq_ok_iff {a b c : Nat} : mul a b = .ok c ↔ a * b < bound ∧ c = a * b := by
  unfold mul
  split <;> rename_i h
  · simp [h, eq_comm]
  · simp [h]

theorem sum_eq_ok_iff {l : List Nat} {c : Nat} : sum l = .ok c ↔ total l < bound ∧ c = total l := by
  unfold sum
  split <;> rename_i h
  · simp [h, eq_comm]
  · simp [h]

/-- What does not fit in a machine word panics; it does not fail. -/
theorem add_ne_error (a b : Nat) (e : Failure) : add a b ≠ .error e := by
  unfold add
  split <;> exact nofun

theorem sum_ne_error (l : List Nat) (e : Failure) : sum l ≠ .error e := by
  unfold sum
  split <;> exact nofun

end Word

end Offload
