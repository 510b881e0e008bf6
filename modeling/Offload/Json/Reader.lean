/-
**Reading JSON.**

The tokens of a text are read by one pass with a stack of the arrays and objects that are still
open.  A value that is complete goes into the innermost of them, or is the result.

The second half reads values of the library's types.  A record is read from an object or from the
array of its fields in order; a name without data is read from a string or from an object that maps
the name to `null`.

Main definitions:

* `Offload.Json.parse?` — the value of a text;
* `Offload.Json.fields?` — the fields of a record;
* `Offload.Json.natBelow?`, `Offload.Json.int32?` — integers in range;
* `Offload.Json.variant?` — a name out of a list.
-/

import Offload.Json.Token

set_option autoImplicit false

namespace Offload.Json

/-- An array or object that is still open, with what it holds so far, the last part first. -/
inductive Frame where
  | array (items : List Json)
  /-- An object that waits for the value of `key`. -/
  | object (members : List (Quoted × Json)) (key : Quoted)

mutual

/-- Reads a value and what follows it, inside the open frames. -/
def readValue : List Frame → List Token → Option Json
  | frames, .scalar j :: rest => readAfter j frames rest
  | frames, .string q :: rest => readAfter (.string q) frames rest
  | frames, .openArray :: .closeArray :: rest => readAfter (.array []) frames rest
  | frames, .openArray :: rest => readValue (.array [] :: frames) rest
  | frames, .openObject :: .closeObject :: rest => readAfter (.object []) frames rest
  | frames, .openObject :: .string key :: .colon :: rest =>
      readValue (.object [] key :: frames) rest
  | _, _ => none

/-- Goes on after a complete value. -/
def readAfter (j : Json) : List Frame → List Token → Option Json
  | [], [] => some j
  | .array items :: frames, .comma :: rest => readValue (.array (j :: items) :: frames) rest
  | .array items :: frames, .closeArray :: rest =>
      readAfter (.array (j :: items).reverse) frames rest
  | .object members key :: frames, .comma :: .string next :: .colon :: rest =>
      readValue (.object ((key, j) :: members) next :: frames) rest
  | .object members key :: frames, .closeObject :: rest =>
      readAfter (.object ((key, j) :: members).reverse) frames rest
  | _, _ => none

end

/-- The value of a text; blanks may stand around it, and nothing else. -/
def parse? (s : String) : Option Json :=
  (tokens s.toList).bind (readValue [])

/-! ### Values of the library's types -/

/-- A natural number below a bound. -/
def natBelow? (bound : Nat) : Json → Option Nat
  | integer (.ofNat n) => if n < bound then some n else none
  | _ => none

/-- A signed number of 32 bits. -/
def int32? : Json → Option Int32
  | integer n => if -0x80000000 ≤ n ∧ n < 0x80000000 then some (Int32.ofInt n) else none
  | _ => none

/-- Whether the keys of an object may stand in a record: each spells a text, no field is given
twice, and in a closed record there are no others. -/
def legalKeys (isClosed : Bool) (names : List String) (members : List (Quoted × Json)) : Bool :=
  let keys := members.map Prod.fst
  keys.all (fun
    | .text key => !isClosed || names.contains key
    | .unpaired => false) &&
  names.all fun name => keys.count (.text name) ≤ 1

/-- The fields of a record by their names, from an object or from an array with all of them in
order.  Other keys of an object are skipped, unless the record is closed. -/
def fields? (isClosed : Bool) (names : List String) : Json → Option (List (Option Json))
  | array items => if items.length = names.length then some (items.map some) else none
  | object members =>
      if legalKeys isClosed names members then
        some (names.map fun name => members.lookup (.text name))
      else none
  | _ => none

/-- The element of a list that a name without data stands for. -/
def variant? {α : Type} (all : List α) (name : α → String) : Json → Option α
  | string (.text s) => all.find? fun a => name a = s
  | object [(.text s, null)] => all.find? fun a => name a = s
  | _ => none

/-- A value that may be `null`. -/
def option? {α : Type} (f : Json → Option α) : Json → Option (Option α)
  | null => some none
  | j => (f j).map some

end Offload.Json
