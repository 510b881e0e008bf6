/-
**Lines of text.**

A text that is printed with a line end after it makes one line or more.  A line ends with a line
feed, and a carriage return right before the line feed belongs to the line end.

Main definitions:

* `Offload.Text.lineText` — a line without the carriage return of its end;
* `Offload.Text.lines` — the lines of a printed text.
-/

set_option autoImplicit false

namespace Offload.Text

/-- A line without the carriage return of its end, if it has one. -/
def lineText (line : List Char) : List Char :=
  if line.getLast? = some '\r' then line.dropLast else line

/-- The lines that a text makes when it is printed with a line end after it. -/
def lines (s : String) : List String :=
  (s.toList.splitOnP fun c => c = '\n').map fun line => String.ofList (lineText line)

@[simp] theorem lineText_nil : lineText [] = [] := rfl

/-- One carriage return at the end goes, and everything before it stays. -/
@[simp] theorem lineText_concat_return (line : List Char) : lineText (line ++ ['\r']) = line := by
  simp [lineText]

/-- A line that ends in any other way is left alone. -/
theorem lineText_of_getLast? {line : List Char} (h : line.getLast? ≠ some '\r') :
    lineText line = line :=
  if_neg h

end Offload.Text
