import EntityQuery.Diagnostic.Basic

/-!
# Reports

A report is a diagnostic tied to the text it is about. Spans are clamped to the text, so that a
label always marks a range of bytes that the text has; a span that was in order and in range is
marked as it stands. Notes become pieces of advice of their own.
-/

namespace EntityQuery

/-- A query text, and the name of the place it was found in. -/
structure SourceText where
  content : String
  name : Option String := none

namespace SourceText

/-- The span cut down to the text. An inverted span becomes empty at its clamped start. -/
def clamp (source : SourceText) (span : Span) : Span :=
  let size := source.content.utf8ByteSize
  let start := min span.start size
  ⟨start, max (min span.stop size) start⟩

end SourceText

namespace Report

/-- How a report ranks what it says. -/
inductive Rank
  | error | warning | advice
  deriving DecidableEq

/-- The rank of a severity. A note is advice. -/
def Rank.ofSeverity : Severity → Rank
  | .error => .error
  | .warning => .warning
  | .note => .advice

/-- A marked range of the text. -/
structure Mark where
  offset : Nat
  length : Nat
  message : String
  primary : Bool
  deriving DecidableEq

/-- A further message that belongs to the report. -/
structure Related where
  message : String
  rank : Rank
  deriving DecidableEq

end Report

/-- A diagnostic against a text. Marks and related messages are absent when there are none. -/
structure Report where
  message : String
  rank : Report.Rank
  code : Option String
  help : Option String
  marks : Option (List Report.Mark)
  related : Option (List Report.Related)
  deriving DecidableEq

namespace Report

/-- A list that has something in it. -/
def present {α : Type} : List α → Option (List α)
  | [] => none
  | items => some items

/-- The range of the text that a label marks. -/
def Mark.ofLabel (source : SourceText) (label : Label) : Mark :=
  let span := source.clamp label.span
  ⟨span.start, span.stop - span.start, label.message, label.role = .primary⟩

/-- The report of a diagnostic against a text. -/
def ofDiagnostic (source : SourceText) (d : Diagnostic) : Report where
  message := d.message
  rank := .ofSeverity d.severity
  code := d.code
  help := d.help
  marks := present (d.labels.map (Mark.ofLabel source))
  related := present (d.notes.map fun note => ⟨note, .advice⟩)

end Report

end EntityQuery
