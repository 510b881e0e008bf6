/-
**Quoted texts.**

A text in double quotes, on one line and with every character visible.  A backslash announces a
character that would end the text, or that does not show.

Main definitions:

* `Offload.Text.Quoted.codePoint`, `Offload.Text.Quoted.mark?` — a character by its number, and
  those with a short form;
* `Offload.Text.Quoted.char` — one character inside the quotes;
* `Offload.Text.Quoted.encode` — a text in quotes.
-/

import Offload.Text.Shown

set_option autoImplicit false

namespace Offload.Text.Quoted

/-- A character by its number, in hexadecimal and in braces. -/
def codePoint (c : Char) : List Char :=
  ['\\', 'u', '\x7b'] ++ Nat.toDigits 16 c.toNat ++ ['\x7d']

/-- The sign after the backslash, for a character that has a short form of its own. -/
def mark? (c : Char) : Option Char :=
  if c = '"' ∨ c = '\\' then some c
  else if c = '\x00' then some '0'
  else if c = '\t' then some 't'
  else if c = '\r' then some 'r'
  else if c = '\n' then some 'n'
  else none

/-- A character inside the quotes. -/
def char (c : Char) : List Char :=
  match mark? c with
  | some mark => ['\\', mark]
  | none => if isShown c then [c] else codePoint c

/-- A text in double quotes. -/
def encode (s : String) : String :=
  "\"" ++ String.ofList (s.toList.flatMap char) ++ "\""

end Offload.Text.Quoted
