import EntityQuery.Proofs.Positions

/-!
# What a report conveys

A diagnostic may carry any spans: out of range, inverted, as large as they come. A report is about a
text, and marks ranges of its bytes. The length of a mark is a difference, which is only the length
of something if the span that it comes from is in order.

**The law** (`Report.diagnostic_conveyed`): clamping makes a span that fits the text out of every span, and
leaves alone exactly those that fit; so a report marks ranges of the text, one for each label and in
their order, and conveys everything else as it is. Clamping loses no byte that the text has: a mark
covers exactly those bytes of the text that are in the span of its label.
-/

namespace EntityQuery

/-! ## Clamping -/

/-- The span is in order, and within the text. -/
def Span.Fits (source : SourceText) (span : Span) : Prop :=
  span.start ≤ span.stop ∧ span.stop ≤ source.content.utf8ByteSize

/-- The byte is in the span. An inverted span has none. -/
def Span.Covers (span : Span) (byte : Nat) : Prop :=
  span.start ≤ byte ∧ byte < span.stop

namespace SourceText

variable {source : SourceText} {span : Span}

/-- **A clamped span fits**, in whichever order start, end and size come. -/
theorem clamp_fits (source : SourceText) (span : Span) : (source.clamp span).Fits source := by
  unfold Span.Fits clamp
  dsimp only
  omega

theorem clamp_eq_self_iff : source.clamp span = span ↔ span.Fits source := by
  constructor
  · intro same
    rw [← same]
    exact source.clamp_fits span
  · rintro ⟨ordered, inside⟩
    exact clamp_eq_self ordered inside

theorem clamp_clamp (source : SourceText) (span : Span) :
    source.clamp (source.clamp span) = source.clamp span :=
  clamp_eq_self_iff.mpr (source.clamp_fits span)

/-- **Clamping keeps the bytes that the text has**, and no others. -/
theorem covers_clamp (source : SourceText) (span : Span) (byte : Nat) :
    (source.clamp span).Covers byte ↔ span.Covers byte ∧ byte < source.content.utf8ByteSize := by
  unfold Span.Covers clamp
  dsimp only
  omega

end SourceText

/-! ## Reports -/

namespace Report

/-- The range of bytes that is marked. -/
def Mark.span (mark : Mark) : Span := ⟨mark.offset, mark.offset + mark.length⟩

/-- **The mark shows the label** in the text. -/
structure Mark.Shows (source : SourceText) (label : Label) (mark : Mark) : Prop where
  inBounds : mark.offset + mark.length ≤ source.content.utf8ByteSize
  clamped : mark.span = source.clamp label.span
  unchanged : label.span.Fits source → mark.span = label.span
  covers : ∀ byte, mark.span.Covers byte ↔
    label.span.Covers byte ∧ byte < source.content.utf8ByteSize
  message : mark.message = label.message
  primary : mark.primary = true ↔ label.role = .primary

/-- The length of a mark is that of the clamped span: nothing was cut off in the subtraction. -/
theorem span_ofLabel (source : SourceText) (label : Label) :
    (Mark.ofLabel source label).span = source.clamp label.span := by
  obtain ⟨ordered, -⟩ := source.clamp_fits label.span
  unfold Mark.span Mark.ofLabel
  dsimp only
  rw [Nat.add_sub_cancel' ordered]

theorem shows_ofLabel (source : SourceText) (label : Label) :
    (Mark.ofLabel source label).Shows source label := by
  have span := span_ofLabel source label
  refine ⟨?_, span, ?_, ?_, rfl, ?_⟩
  · obtain ⟨-, inside⟩ := source.clamp_fits label.span
    rw [← span] at inside
    exact inside
  · intro fits
    rw [span, SourceText.clamp_eq_self_iff.mpr fits]
  · intro byte
    rw [span]
    exact source.covers_clamp label.span byte
  · exact decide_eq_true_iff

/-- **The report conveys the diagnostic.** Marks and related messages are absent if there are none,
and never an empty list. -/
structure Conveys (source : SourceText) (d : Diagnostic) (report : Report) : Prop where
  message : report.message = d.message
  code : report.code = d.code
  help : report.help = d.help
  rank : (report.rank = .error ↔ d.severity = .error) ∧
    (report.rank = .warning ↔ d.severity = .warning) ∧ (report.rank = .advice ↔ d.severity = .note)
  marks : List.Forall₂ (Mark.Shows source) d.labels (report.marks.getD [])
  unmarked : report.marks = none ↔ d.labels = []
  related : List.Forall₂ (fun note related => related.message = note ∧ related.rank = .advice)
    d.notes (report.related.getD [])
  unrelated : report.related = none ↔ d.notes = []

theorem Rank.ofSeverity_iff (severity : Severity) :
    (ofSeverity severity = .error ↔ severity = .error) ∧
      (ofSeverity severity = .warning ↔ severity = .warning) ∧
      (ofSeverity severity = .advice ↔ severity = .note) := by
  cases severity <;> decide

theorem present_getD {α : Type} (items : List α) : (present items).getD [] = items := by
  cases items <;> rfl

theorem present_eq_none {α : Type} {items : List α} : present items = none ↔ items = [] := by
  cases items <;> simp [present]

/-- **A report conveys its diagnostic, within the bounds of its text.** Clamping makes a span that
fits the text out of any span, so that its length is never less than nothing, and leaves alone the
spans that fit and no others; clamping twice is clamping once. The report of any diagnostic against
any text conveys the diagnostic, with each mark in the bounds of the text. -/
theorem diagnostic_conveyed (source : SourceText) (d : Diagnostic) :
    (∀ span : Span, (source.clamp span).Fits source ∧
      (source.clamp span = span ↔ span.Fits source) ∧
      source.clamp (source.clamp span) = source.clamp span) ∧
    Conveys source d (ofDiagnostic source d) := by
  refine ⟨?_, ?_⟩
  · intro span
    exact ⟨source.clamp_fits span, SourceText.clamp_eq_self_iff, source.clamp_clamp span⟩
  · refine ⟨rfl, rfl, rfl, Rank.ofSeverity_iff d.severity, ?_, ?_, ?_, ?_⟩
    · show List.Forall₂ _ _ ((present (d.labels.map (Mark.ofLabel source))).getD [])
      rw [present_getD, List.forall₂_map_right_iff, List.forall₂_same]
      intro label _
      exact shows_ofLabel source label
    · show present (d.labels.map (Mark.ofLabel source)) = none ↔ _
      rw [present_eq_none, List.map_eq_nil_iff]
    · show List.Forall₂ _ _ ((present (d.notes.map fun note => Related.mk note .advice)).getD [])
      rw [present_getD, List.forall₂_map_right_iff, List.forall₂_same]
      intro note _
      exact ⟨rfl, rfl⟩
    · show present (d.notes.map fun note => Related.mk note .advice) = none ↔ _
      rw [present_eq_none, List.map_eq_nil_iff]

example :
    let d : Diagnostic := {
      severity := .note
      message := "look here"
      labels := [.primary ⟨5, 100⟩ "", .secondary ⟨6, 2⟩ "inverted",
        .primary ⟨40, 18446744073709551615⟩ "behind the end"] }
    (ofDiagnostic ⟨"from Person", none⟩ d).marks =
      some [⟨5, 6, "", true⟩, ⟨6, 0, "inverted", false⟩, ⟨11, 0, "behind the end", true⟩] := by
  decide +kernel

end Report

end EntityQuery
