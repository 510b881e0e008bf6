/-
**Paths and pieces of text.**

Slash-separated paths as plain texts, and the searches in texts that the build step needs.

Main definitions:

* `Offload.Text.join` — a path below a directory;
* `Offload.Text.withoutPrefix?` — what follows a given start;
* `Offload.Text.occursIn` — whether one text lies in another.
-/

set_option autoImplicit false

namespace Offload.Text

/-- The path of a name below a directory; an absolute name stands for itself. -/
def join (directory name : String) : String :=
  if name.toList.head? = some '/' ∨ directory = "" then name
  else if directory.toList.getLast? = some '/' then directory ++ name
  else directory ++ "/" ++ name

/-- What follows `start` in a text that starts with it. -/
def withoutPrefix? (start s : String) : Option String :=
  if start.toList.isPrefixOf s.toList then
    some (String.ofList (s.toList.drop start.toList.length))
  else none

/-- A text without the given characters at its end. -/
def trimEnd (p : Char → Bool) (s : String) : String :=
  String.ofList (s.toList.reverse.dropWhile p).reverse

/-- Whether a list starts with another one somewhere. -/
def hasSublist (needle : List Char) : List Char → Bool
  | [] => needle.isEmpty
  | c :: rest => needle.isPrefixOf (c :: rest) || hasSublist needle rest

/-- Whether one text lies in another. -/
def occursIn (needle s : String) : Bool :=
  hasSublist needle.toList s.toList

end Offload.Text
