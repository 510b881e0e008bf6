/-
**Log records.**

The library describes what it does as a list of records: spans that are entered and left, and events
with a level, a message and named fields.  A verbosity decides which of them are kept.

Main definitions:

* `Offload.Level`, `Offload.Verbosity` — levels and the threshold that admits them;
* `Offload.Field`, `Offload.Event`, `Offload.Span`, `Offload.Record` — what is recorded;
* `Offload.Record.lines` — the records as lines of text, each event after the span it stands in.
-/

import Offload.Text.Quoted

set_option autoImplicit false

namespace Offload

/-- How important an event is. -/
inductive Level where
  | error
  | warn
  | info
  | debug
  | trace
deriving DecidableEq, Repr, Inhabited

namespace Level

/-- The position of a level, the most important one first. -/
def rank : Level → Nat
  | error => 0
  | warn => 1
  | info => 2
  | debug => 3
  | trace => 4

/-- The name of a level at the start of a line. -/
def name : Level → String
  | error => "ERROR"
  | warn => "WARN"
  | info => "INFO"
  | debug => "DEBUG"
  | trace => "TRACE"

end Level

/-- The least important level that is still recorded; without one, nothing is. -/
structure Verbosity where
  finest : Option Level
deriving DecidableEq, Repr, Inhabited

namespace Verbosity

/-- Records nothing. -/
def off : Verbosity := ⟨none⟩

/-- Whether events of a level are recorded. -/
def admits (v : Verbosity) (l : Level) : Bool :=
  match v.finest with
  | none => false
  | some finest => l.rank ≤ finest.rank

/-- The verbosity that a user names, by a word in any case or by a digit.  The empty text asks for
errors only. -/
def ofText? (s : String) : Option Verbosity :=
  match s.toLower with
  | "off" | "0" => some off
  | "" | "error" | "1" => some ⟨some .error⟩
  | "warn" | "2" => some ⟨some .warn⟩
  | "info" | "3" => some ⟨some .info⟩
  | "debug" | "4" => some ⟨some .debug⟩
  | "trace" | "5" => some ⟨some .trace⟩
  | _ => none

@[simp] theorem admits_off (l : Level) : off.admits l = false := rfl

/-- Where events of a level are recorded, more important ones are recorded too. -/
theorem admits_of_rank_le {v : Verbosity} {l l' : Level} (hle : l.rank ≤ l'.rank)
    (h : v.admits l' = true) : v.admits l = true := by
  obtain ⟨finest⟩ := v
  cases finest with
  | none => exact absurd h Bool.false_ne_true
  | some finest => exact decide_eq_true (Nat.le_trans hle (of_decide_eq_true h))

end Verbosity

/-- A named value of an event or a span. -/
structure Field where
  name : String
  value : String
  /-- Whether the value is shown in quotes. -/
  quoted : Bool
deriving DecidableEq, Repr

namespace Field

/-- A field whose value is shown as it is. -/
def plain (name value : String) : Field := ⟨name, value, false⟩

/-- A field that holds a number. -/
def number (name : String) (value : Nat) : Field := ⟨name, toString value, false⟩

/-- A field that holds a text, shown in quotes. -/
def text (name value : String) : Field := ⟨name, value, true⟩

/-- A field in a line of text. -/
def render (f : Field) : String :=
  f.name ++ "=" ++ (if f.quoted then Text.Quoted.encode f.value else f.value)

end Field

/-- Something that happened. -/
structure Event where
  level : Level
  message : String
  fields : List Field
deriving DecidableEq, Repr

/-- A stretch of work; the events inside it are shown with it. -/
structure Span where
  name : String
  fields : List Field
deriving DecidableEq, Repr

/-- One entry of a log. -/
inductive Record where
  | enter (span : Span)
  | leave
  | event (event : Event)
deriving DecidableEq, Repr

/-- A span in a line of text. -/
def Span.render (s : Span) : String :=
  s.name ++ "\x7b" ++ String.intercalate " " (s.fields.map Field.render) ++ "\x7d"

/-- An event as a line of text, inside the spans given from the outermost to the innermost. -/
def Event.line (spans : List Span) (e : Event) : String :=
  let place := spans.map fun s => s.render ++ ": "
  String.intercalate " " ((e.level.name ++ " " ++ String.join place ++ e.message) ::
    e.fields.map Field.render)

/-- The lines of a log, when the given spans are already entered, the innermost first. -/
def Record.linesIn : List Span → List Record → List String
  | _, [] => []
  | spans, .enter s :: rest => linesIn (s :: spans) rest
  | spans, .leave :: rest => linesIn spans.tail rest
  | spans, .event e :: rest => e.line spans.reverse :: linesIn spans rest

/-- The lines of a log. -/
def Record.lines (log : List Record) : List String :=
  linesIn [] log

end Offload
