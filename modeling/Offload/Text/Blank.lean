/-
**Blank characters.**

The characters with the Unicode property `White_Space`, and what is done with them: texts are
trimmed at both ends and split into words.

Main definitions:

* `Offload.Text.isBlank` — the property, as a list of ranges;
* `Offload.Text.trim` — a text without the blanks at its ends;
* `Offload.Text.words` — the longest blank-free pieces of a text.
-/

set_option autoImplicit false

namespace Offload.Text

/-- The code points with the property `White_Space`, as closed ranges in increasing order. -/
def blankRanges : List (Nat × Nat) :=
  [(0x09, 0x0d), (0x20, 0x20), (0x85, 0x85), (0xa0, 0xa0), (0x1680, 0x1680), (0x2000, 0x200a),
   (0x2028, 0x2029), (0x202f, 0x202f), (0x205f, 0x205f), (0x3000, 0x3000)]

/-- Whether a character has the property `White_Space`. -/
def isBlank (c : Char) : Bool :=
  blankRanges.any fun r => r.1 ≤ c.toNat && c.toNat ≤ r.2

/-- Drops the elements at both ends that satisfy a property. -/
def strip {α : Type} (p : α → Bool) (l : List α) : List α :=
  ((l.dropWhile p).reverse.dropWhile p).reverse

/-- A text without the blanks at its ends. -/
def trim (s : String) : String :=
  String.ofList (strip isBlank s.toList)

/-- The non-empty pieces of a text between the characters that satisfy a property. -/
def pieces (p : Char → Bool) (s : String) : List String :=
  ((s.toList.splitOnP p).filter fun piece => !piece.isEmpty).map String.ofList

/-- The words of a text: its longest pieces without a blank. -/
def words (s : String) : List String :=
  pieces isBlank s

end Offload.Text
