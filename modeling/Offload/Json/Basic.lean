/-
**JSON values and their text.**

A JSON value as the library writes and reads it.  All numbers of the library are integers, so a
number with a fraction or an exponent is kept only as "some other number".  Likewise a string is
either a text, or a string with an unpaired surrogate escape, which spells no text.

Main definitions:

* `Offload.Json`, `Offload.Json.Quoted` — values, and the strings and keys in them;
* `Offload.Json.compact` — the text without any blanks;
* `Offload.Json.pretty` — the text with one member or item a line, two blanks deeper each level.
-/

set_option autoImplicit false

namespace Offload

/-- A JSON string. -/
inductive Json.Quoted where
  /-- A string that spells a text. -/
  | text (s : String)
  /-- A string with an unpaired surrogate escape, which spells no text. -/
  | unpaired
deriving DecidableEq, Repr

/-- A JSON value. -/
inductive Json where
  | null
  | bool (value : Bool)
  /-- A number written without fraction and exponent; a zero has no sign. -/
  | integer (value : Int)
  /-- Any other number. -/
  | otherNumber
  | string (value : Json.Quoted)
  | array (items : List Json)
  | object (members : List (Json.Quoted × Json))

namespace Json

/-- A hexadecimal digit in lower case. -/
def hexDigit (n : Nat) : Char :=
  Nat.digitChar (n % 16)

/-- A character inside a JSON string. -/
def escape (c : Char) : List Char :=
  if c = '"' then ['\\', '"']
  else if c = '\\' then ['\\', '\\']
  else if c = '\x08' then ['\\', 'b']
  else if c = '\x0c' then ['\\', 'f']
  else if c = '\n' then ['\\', 'n']
  else if c = '\r' then ['\\', 'r']
  else if c = '\t' then ['\\', 't']
  else if c.toNat < 0x20 then
    ['\\', 'u', '0', '0', hexDigit (c.toNat / 16), hexDigit c.toNat]
  else [c]

/-- A string with its quotes. -/
def Quoted.chars : Quoted → List Char
  | text s => '"' :: s.toList.flatMap escape ++ ['"']
  | unpaired => ['"', '\\', 'u', 'd', '8', '0', '0', '"']

/-- A decimal integer. -/
def intChars : Int → List Char
  | .ofNat n => Nat.toDigits 10 n
  | .negSucc n => '-' :: Nat.toDigits 10 (n + 1)

/-- A value that has no parts. -/
def scalarChars : Json → List Char
  | null => ['n', 'u', 'l', 'l']
  | bool true => ['t', 'r', 'u', 'e']
  | bool false => ['f', 'a', 'l', 's', 'e']
  | integer n => intChars n
  | string q => q.chars
  | _ => ['0', '.', '0']

mutual

/-- The text of a value without blanks, as characters. -/
def chars : Json → List Char
  | array items => '[' :: itemChars items ++ [']']
  | object members => '\x7b' :: memberChars members ++ ['\x7d']
  | scalar => scalar.scalarChars

/-- The items of an array without blanks. -/
def itemChars : List Json → List Char
  | [] => []
  | [j] => j.chars
  | j :: k :: rest => j.chars ++ ',' :: itemChars (k :: rest)

/-- The members of an object without blanks. -/
def memberChars : List (Quoted × Json) → List Char
  | [] => []
  | [(key, j)] => key.chars ++ ':' :: j.chars
  | (key, j) :: m :: rest => key.chars ++ ':' :: j.chars ++ ',' :: memberChars (m :: rest)

end

/-- The text of a value, without blanks. -/
def compact (j : Json) : String :=
  String.ofList j.chars

/-- The start of a line at a given depth. -/
def newLine (depth : Nat) : List Char :=
  '\n' :: List.replicate (2 * depth) ' '

mutual

/-- The text of a value in several lines, as characters. -/
def prettyChars (depth : Nat) : Json → List Char
  | array [] => ['[', ']']
  | array (j :: rest) =>
      '[' :: newLine (depth + 1) ++ j.prettyChars (depth + 1) ++ prettyItems (depth + 1) rest ++
        newLine depth ++ [']']
  | object [] => ['\x7b', '\x7d']
  | object ((key, j) :: rest) =>
      '\x7b' :: newLine (depth + 1) ++ key.chars ++ ':' :: ' ' :: j.prettyChars (depth + 1) ++
        prettyMembers (depth + 1) rest ++ newLine depth ++ ['\x7d']
  | scalar => scalar.scalarChars

/-- The items after the first one, each on a line of its own. -/
def prettyItems (depth : Nat) : List Json → List Char
  | [] => []
  | j :: rest => ',' :: newLine depth ++ j.prettyChars depth ++ prettyItems depth rest

/-- The members after the first one, each on a line of its own. -/
def prettyMembers (depth : Nat) : List (Quoted × Json) → List Char
  | [] => []
  | (key, j) :: rest =>
      ',' :: newLine depth ++ key.chars ++ ':' :: ' ' :: j.prettyChars depth ++
        prettyMembers depth rest

end

/-- The text of a value, one member or item a line. -/
def pretty (j : Json) : String :=
  String.ofList (j.prettyChars 0)

/-! ### Building values -/

/-- A natural number. -/
def nat (n : Nat) : Json := integer n

/-- A text. -/
def str (s : String) : Json := string (.text s)

/-- A value that may be absent. -/
def option {α : Type} (f : α → Json) : Option α → Json
  | none => null
  | some a => f a

/-- A record with named members. -/
def record (members : List (String × Json)) : Json :=
  object (members.map fun m => (.text m.1, m.2))

end Json

end Offload
