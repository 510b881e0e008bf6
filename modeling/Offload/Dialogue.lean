/-
**Dialogues.**

A dialogue is a computation that can reach its surroundings only by asking questions from a fixed
list.  It goes on with the answer, or with the failure that it got instead of one, and ends with a
value, a failure or a panic.  What a question means is decided by whoever runs the dialogue.

Kernel bodies and session programs are dialogues: a kernel can touch memory only through typed reads
and writes, a program can touch its session only through the session's operations.  Every fact
about "all kernels" or "all programs" is then an induction over dialogues.

Main definitions:

* `Offload.Dialogue` — dialogues, a monad;
* `Offload.Dialogue.request` — asks one question and fails if the answer is a failure;
* `Offload.Dialogue.attempt` — turns a failure of a dialogue into a value;
* `Offload.Dialogue.run` — runs a dialogue with an action for every question.
-/

import Offload.Act

set_option autoImplicit false

namespace Offload

/-- A computation that asks questions `q : Q` and gets answers of type `A q`. -/
inductive Dialogue (Q : Type) (A : Q → Type) (α : Type) where
  /-- Ends with a value. -/
  | done (value : α)
  /-- Ends with a failure. -/
  | fail (cause : Failure)
  /-- Panics. -/
  | panic (cause : Panic)
  /-- Asks a question and goes on with the answer. -/
  | ask (question : Q) (next : Except Failure (A question) → Dialogue Q A α)

namespace Dialogue

variable {Q : Type} {A : Q → Type} {α β : Type}

/-- One dialogue, then another that may use its result. -/
def bind : Dialogue Q A α → (α → Dialogue Q A β) → Dialogue Q A β
  | done a, f => f a
  | fail e, _ => fail e
  | panic p, _ => panic p
  | ask q next, f => ask q fun r => (next r).bind f

instance : Monad (Dialogue Q A) where
  pure := done
  bind := bind

/-- Ends at once in a given way. -/
def ofOutcome : Outcome α → Dialogue Q A α
  | .ok a => done a
  | .error e => fail e
  | .panic p => panic p

/-- Asks a question and fails if the answer is a failure. -/
def request (q : Q) : Dialogue Q A (A q) :=
  ask q fun
    | .ok a => done a
    | .error e => fail e

/-- Turns a failure of a dialogue into a value; a panic still unwinds. -/
def attempt : Dialogue Q A α → Dialogue Q A (Except Failure α)
  | done a => done (.ok a)
  | fail e => done (.error e)
  | panic p => panic p
  | ask q next => ask q fun r => (next r).attempt

/-- Runs a dialogue in which every question is answered by an action. -/
def run {σ : Type} (answer : (q : Q) → Act σ (A q)) : Dialogue Q A α → Act σ α
  | done a => pure a
  | fail e => Act.fail e
  | panic p => Act.panic p
  | ask q next => (answer q).attempt >>= fun r => (next r).run answer

@[simp] theorem pure_eq (a : α) : (pure a : Dialogue Q A α) = done a := rfl

@[simp] theorem done_bind (a : α) (f : α → Dialogue Q A β) : (done a >>= f) = f a := rfl

@[simp] theorem fail_bind (e : Failure) (f : α → Dialogue Q A β) :
    ((fail e : Dialogue Q A α) >>= f) = fail e := rfl

@[simp] theorem panic_bind (p : Panic) (f : α → Dialogue Q A β) :
    ((panic p : Dialogue Q A α) >>= f) = panic p := rfl

@[simp] theorem ask_bind (q : Q) (next : Except Failure (A q) → Dialogue Q A α)
    (f : α → Dialogue Q A β) : (ask q next >>= f) = ask q fun r => next r >>= f := rfl

end Dialogue

end Offload
