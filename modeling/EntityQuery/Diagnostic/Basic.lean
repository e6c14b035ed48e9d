/-!
# Diagnostics

A diagnostic says what is wrong with a query and where. Its labels carry byte spans into the query
text; the spans are those of whoever asked, and are kept as they were given, also when they are
out of range or inverted. Bounds are dealt with only when a report is made.
-/

namespace EntityQuery

/-- A range of bytes, from `start` up to but not including `stop`. -/
structure Span where
  start : Nat
  stop : Nat
  deriving DecidableEq

/-- How bad a diagnostic is. -/
inductive Severity
  | error | warning | note
  deriving DecidableEq

/-- A primary label marks what is wrong, a secondary one gives context. -/
inductive LabelRole
  | primary | secondary
  deriving DecidableEq

/-- A remark on a span. -/
structure Label where
  span : Span
  message : String
  role : LabelRole
  deriving DecidableEq

/-- A diagnostic. The code is stable and meant for tools. -/
structure Diagnostic where
  severity : Severity
  message : String
  labels : List Label := []
  help : Option String := none
  notes : List String := []
  code : Option String := none
  deriving DecidableEq

namespace Label

/-- A label on the offending span. -/
def primary (span : Span) (message : String) : Label := ⟨span, message, .primary⟩

/-- A label on a span that gives context. -/
def secondary (span : Span) (message : String) : Label := ⟨span, message, .secondary⟩

/-- The label moved along `f`. -/
def mapSpan (f : Span → Span) (label : Label) : Label := { label with span := f label.span }

end Label

namespace Diagnostic

/-- The diagnostic is an error. -/
def isError (d : Diagnostic) : Bool := d.severity = .error

/-- The span of the first primary label. -/
def primarySpan? (d : Diagnostic) : Option Span :=
  (d.labels.find? (·.role = .primary)).map (·.span)

/-- The diagnostic with every label moved along `f`. -/
def mapSpans (f : Span → Span) (d : Diagnostic) : Diagnostic :=
  { d with labels := d.labels.map (·.mapSpan f) }

end Diagnostic

end EntityQuery
