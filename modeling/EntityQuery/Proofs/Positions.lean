import EntityQuery.Diagnostic.Report
import EntityQuery.Proofs.Agreement
import EntityQuery.Proofs.FirstFailure
import EntityQuery.Proofs.Warnings

/-!
# Where diagnostics point

A span is a range of bytes, and goes through many hands. The text of a path is cut at its dots, and
each segment gets its bytes, counted from where the path stands in the query. A walk hands the spans
of its segments on to the diagnostic of its failure, and a report clamps them to the query. This
module follows them to the end.

**The law** (`Session.labels_in_place`): if a path is refused that stands in a query, then every
label of the diagnostic is on a segment of the path, and what the query has there is the name of
this segment, be it empty. No label starts or ends inside a character, and a report against the
query marks the labels as they stand. The text may be any text, so that a character may take up more
bytes than one.

The store has no part in this. Whatever a walk finds, the spans come from the path.
-/

namespace EntityQuery

/-! ## Places in a text -/

namespace Text

theorem bytes_append (left right : String) : bytes (left ++ right) = bytes left ++ bytes right := by
  simp [bytes]

theorem length_bytes (text : String) : (bytes text).length = text.utf8ByteSize := by
  simp [bytes]

/-- The bytes of a text at a span. -/
def bytesAt (text : String) (span : Span) : List UInt8 :=
  ((bytes text).drop span.start).take (span.stop - span.start)

/-- A part takes up its own bytes, after those of what is left of it. -/
theorem bytesAt_append (left part right : String) :
    bytesAt (left ++ part ++ right)
      ⟨left.utf8ByteSize, left.utf8ByteSize + part.utf8ByteSize⟩ = bytes part := by
  unfold bytesAt
  dsimp only
  rw [Nat.add_sub_cancel_left, bytes_append, bytes_append, List.append_assoc, ← length_bytes left,
    List.drop_left, ← length_bytes part, List.take_left]

/-- Between two parts of a text there is no character. -/
theorem isValid_append (left right : String) :
    (⟨left.utf8ByteSize⟩ : String.Pos.Raw).IsValid (left ++ right) :=
  String.Pos.Raw.isValid_iff_exists_append.mpr ⟨left, right, rfl, rfl⟩

/-- The part stands in the text, from byte `offset` on. -/
def OccursAt (text part : String) (offset : Nat) : Prop :=
  ∃ left right, text = left ++ part ++ right ∧ left.utf8ByteSize = offset

/-- The part stands in the text for the first time from byte `offset` on. -/
def FirstAt (text part : String) (offset : Nat) : Prop :=
  OccursAt text part offset ∧ ∀ other, OccursAt text part other → offset ≤ other

theorem utf8ByteSize_ofList_cons (c : Char) (cs : List Char) :
    (String.ofList (c :: cs)).utf8ByteSize = c.utf8Size + (String.ofList cs).utf8ByteSize := by
  rw [String.ofList_cons, String.utf8ByteSize_append, String.utf8ByteSize_singleton]

/-- What the search finds is an occurrence. -/
theorem byteOffset?_sound {part cs : List Char} {offset : Nat}
    (found : byteOffset? part cs = some offset) :
    ∃ left right, cs = left ++ part ++ right ∧ (String.ofList left).utf8ByteSize = offset := by
  induction cs generalizing offset with
  | nil =>
    unfold byteOffset? at found
    split at found
    · next empty =>
      cases found
      rw [List.isEmpty_iff.mp empty]
      exact ⟨[], [], rfl, rfl⟩
    · cases found
  | cons c cs ih =>
    unfold byteOffset? at found
    split at found
    · next here =>
      cases found
      obtain ⟨right, whole⟩ := List.isPrefixOf_iff_prefix.mp here
      exact ⟨[], right, whole.symm, rfl⟩
    · obtain ⟨rest, later, rfl⟩ := Option.map_eq_some_iff.mp found
      obtain ⟨left, right, whole, size⟩ := ih later
      refine ⟨c :: left, right, congrArg (c :: ·) whole, ?_⟩
      rw [utf8ByteSize_ofList_cons, size]

/-- The search finds an occurrence, or an earlier one. -/
theorem byteOffset?_least (left part right : List Char) :
    ∃ offset ≤ (String.ofList left).utf8ByteSize,
      byteOffset? part (left ++ part ++ right) = some offset := by
  induction left with
  | nil =>
    refine ⟨0, Nat.zero_le _, ?_⟩
    have here : part.isPrefixOf (part ++ right) :=
      List.isPrefixOf_iff_prefix.mpr (List.prefix_append part right)
    rw [List.nil_append]
    cases whole : part ++ right with
    | nil =>
      rw [(List.append_eq_nil_iff.mp whole).1]
      rfl
    | cons c cs =>
      rw [whole] at here
      exact if_pos here
  | cons c left ih =>
    rw [List.cons_append, List.cons_append, byteOffset?]
    split
    · exact ⟨0, Nat.zero_le _, rfl⟩
    · obtain ⟨offset, early, found⟩ := ih
      refine ⟨c.utf8Size + offset, ?_, by rw [found]; rfl⟩
      rw [utf8ByteSize_ofList_cons]
      exact Nat.add_le_add_left early _

/-- **The search finds the first occurrence**, if there is one. -/
theorem byteOffset?_eq_some_iff {part text : String} {offset : Nat} :
    byteOffset? part.toList text.toList = some offset ↔ FirstAt text part offset := by
  have least : ∀ {other}, OccursAt text part other →
      ∃ offset ≤ other, byteOffset? part.toList text.toList = some offset := by
    rintro other ⟨left, right, rfl, rfl⟩
    have found := byteOffset?_least left.toList part.toList right.toList
    rw [String.ofList_toList] at found
    simpa using found
  have sound : ∀ {offset}, byteOffset? part.toList text.toList = some offset →
      OccursAt text part offset := by
    intro offset found
    obtain ⟨left, right, whole, size⟩ := byteOffset?_sound found
    refine ⟨.ofList left, .ofList right, ?_, size⟩
    rw [← String.toList_inj, whole]
    simp
  constructor
  · intro found
    refine ⟨sound found, ?_⟩
    intro other occurs
    obtain ⟨offset', early, found'⟩ := least occurs
    cases found.symm.trans found'
    exact early
  · rintro ⟨occurs, first⟩
    obtain ⟨offset', early, found⟩ := least occurs
    rw [found, Nat.le_antisymm early (first offset' (sound found))]

end Text

/-! ## Marks in a report -/

/-- A span that is in order and in range is left as it is. -/
theorem SourceText.clamp_eq_self {source : SourceText} {span : Span}
    (ordered : span.start ≤ span.stop) (inside : span.stop ≤ source.content.utf8ByteSize) :
    source.clamp span = span := by
  unfold clamp
  dsimp only
  rw [Nat.min_eq_left (Nat.le_trans ordered inside), Nat.min_eq_left inside,
    Nat.max_eq_left ordered]

/-- The range that a label marks as it stands. -/
def Report.Mark.unclamped (label : Label) : Mark :=
  ⟨label.span.start, label.span.stop - label.span.start, label.message, label.role = .primary⟩

theorem Report.marks_ofDiagnostic {source : SourceText} {d : Diagnostic} (labelled : d.labels ≠ [])
    (fits : ∀ label ∈ d.labels, source.clamp label.span = label.span) :
    (ofDiagnostic source d).marks = some (d.labels.map Mark.unclamped) := by
  have marks : d.labels.map (Mark.ofLabel source) = d.labels.map Mark.unclamped := by
    refine List.map_congr_left fun label here => ?_
    unfold Mark.ofLabel Mark.unclamped
    rw [fits label here]
  show present (d.labels.map (Mark.ofLabel source)) = _
  rw [marks]
  obtain ⟨label, labels, eq⟩ := List.exists_cons_of_ne_nil labelled
  rw [eq]
  rfl

namespace Navigation

variable {schema : Schema} {store : Store} {segment : Segment} {query path root : String}
  {offset : Nat} {d : Diagnostic}

/-! ## Segments in a query -/

/-- A segment is a part of the text, and takes up the bytes of this part. -/
theorem segments_split (here : segment ∈ segments path offset) :
    ∃ left right, path = left ++ segment.name ++ right ∧
      segment.span = ⟨offset + left.utf8ByteSize,
        offset + left.utf8ByteSize + segment.name.utf8ByteSize⟩ := by
  unfold segments at here
  generalize cut : Text.dotted path = names at here
  induction names generalizing path offset with
  | nil => cases here
  | cons first others ih =>
    rcases List.mem_cons.mp here with rfl | here
    · rcases Text.dotted_eq_cons cut with ⟨-, rfl⟩ | ⟨rest, rfl, -⟩
      · exact ⟨"", "", by simp, rfl⟩
      · exact ⟨"", "." ++ rest, by simp [Descriptor.roleOf, String.append_assoc], rfl⟩
    · rcases Text.dotted_eq_cons cut with ⟨rfl, -⟩ | ⟨rest, rfl, onward⟩
      · cases here
      · obtain ⟨left, right, rfl, span⟩ := ih onward here
        refine ⟨first ++ "." ++ left, right, by simp [Descriptor.roleOf, String.append_assoc], ?_⟩
        have dot : ".".utf8ByteSize = 1 := rfl
        rw [span, String.utf8ByteSize_append, String.utf8ByteSize_append, dot]
        simp only [Span.mk.injEq]
        omega

/-- The first segment is where the text starts. -/
theorem segments_eq_cons {first : Segment} {rest : List Segment}
    (eq : segments path offset = first :: rest) :
    first.span = ⟨offset, offset + first.name.utf8ByteSize⟩ := by
  unfold segments at eq
  cases names : Text.dotted path with
  | nil => exact absurd names (Text.dotted_ne_nil path)
  | cons name names' =>
    rw [names] at eq
    cases eq
    rfl

/-- **The span is on a segment** of a path that stands at byte `offset` of a query. It is within the
path, it does not start or end inside a character of the query, and what the query has there is the
name of the segment. -/
structure OnSegment (query path : String) (offset : Nat) (span : Span) : Prop where
  within : offset ≤ span.start ∧ span.start ≤ span.stop ∧ span.stop ≤ offset + path.utf8ByteSize
  between : (⟨span.start⟩ : String.Pos.Raw).IsValid query ∧
    (⟨span.stop⟩ : String.Pos.Raw).IsValid query
  named : ∃ segment ∈ segments path offset, segment.span = span ∧
    segment.name ∈ Text.dotted path ∧ Text.bytesAt query span = Text.bytes segment.name

/-- The spans of the segments of a path are on them, wherever the path stands in a query. -/
theorem onSegment_of_mem (occurs : Text.OccursAt query path offset)
    (here : segment ∈ segments path offset) : OnSegment query path offset segment.span := by
  obtain ⟨before, after, rfl, rfl⟩ := occurs
  obtain ⟨left, right, whole, span⟩ := segments_split here
  -- the query, cut around the name of the segment
  have cut : before ++ path ++ after = (before ++ left) ++ segment.name ++ (right ++ after) := by
    rw [whole]
    simp only [String.append_assoc]
  rw [← String.utf8ByteSize_append] at span
  have listed : segment.name ∈ Text.dotted path := by
    rw [← map_name_layOut before.utf8ByteSize (Text.dotted path)]
    exact List.mem_map_of_mem here
  refine ⟨?_, ?_, segment, here, rfl, listed, ?_⟩
  · rw [span, whole]
    simp only [String.utf8ByteSize_append]
    omega
  · rw [span, cut]
    refine ⟨?_, ?_⟩
    · rw [String.append_assoc]
      exact Text.isValid_append _ _
    · dsimp only
      rw [← String.utf8ByteSize_append]
      exact Text.isValid_append _ _
  · rw [span, cut]
    exact Text.bytesAt_append _ _ _

/-! ## Labels on segments -/

/-- The labels of a failure are on the segment, and on what stands before it. -/
theorem Failure.labels {previous : Span} (failure : Failure previous segment d) :
    d.labels ≠ [] ∧ ∀ label ∈ d.labels, label.span = previous ∨ label.span = segment.span := by
  cases failure with
  | empty => simp [emptySegment, Label.primary]
  | notNavigable target => simp [Navigation.notNavigable, Label.primary, Label.secondary]
  | noSuchProperty holder path => simp [SchemaError.diagnose, Label.primary]
  | unmappedEntity name => simp [SchemaError.diagnose, Label.primary]
  | unmappedCollection role => simp [SchemaError.diagnose, Label.primary]
  | notACollection role => simp [SchemaError.diagnose, Label.primary]

/-- A walk that fails is labelled, on its root and its segments only. -/
theorem resolve_labels {rootSpan : Span} {rest : List Segment}
    (failed : ((resolve schema root rootSpan rest).run store).value = .error d) :
    d.labels ≠ [] ∧ ∀ label ∈ d.labels, label.span ∈ spans rootSpan rest := by
  rcases walk_failure (walk_error failed) with ⟨rfl, -⟩ |
    ⟨before, segment, after, near, rfl, -, last, stuck⟩
  · simp [SchemaError.diagnose, Label.primary, spans]
  · obtain ⟨labelled, labels⟩ := (Cursor.advance_failure stuck).labels
    refine ⟨labelled, ?_⟩
    intro label here
    rw [spans_append]
    rcases labels label here with there | there
    · rw [there]
      exact List.mem_append_left _ (List.mem_of_getElem? last)
    · rw [there]
      exact List.mem_append_right _ (List.mem_map_of_mem List.mem_cons_self)

/-- A path that fails is labelled, on its segments only. The alias is one of them, also if it is
missing. -/
theorem resolveText_labels
    (failed : ((resolveText schema root path offset).run store).value = .error d) :
    d.labels ≠ [] ∧ ∀ label ∈ d.labels, ∃ segment ∈ segments path offset,
      segment.span = label.span := by
  unfold resolveText at failed
  split at failed
  · next nothing =>
    have names : (segments path offset).map (·.name) = Text.dotted path := map_name_layOut _ _
    rw [nothing] at names
    exact absurd names.symm (Text.dotted_ne_nil path)
  · next first rest eq =>
    have start := segments_eq_cons eq
    rw [eq]
    split at failed
    · next empty =>
      cases failed
      rw [String.isEmpty_iff.mp empty] at start
      refine ⟨List.cons_ne_nil _ _, ?_⟩
      intro label here
      rw [List.mem_singleton.mp here]
      exact ⟨first, List.mem_cons_self, start⟩
    · obtain ⟨labelled, labels⟩ := resolve_labels failed
      refine ⟨labelled, ?_⟩
      intro label here
      exact List.mem_map.mp (labels label here)

/-- **The diagnostic is in place** for a path that stands at byte `offset` of a query: it has
labels, they are on segments of the path, and a report against the query marks them as they
stand. -/
structure InPlace (query path : String) (offset : Nat) (d : Diagnostic) : Prop where
  labelled : d.labels ≠ []
  onSegment : ∀ label ∈ d.labels, OnSegment query path offset label.span
  reported : ∀ source : SourceText, source.content = query →
    (∀ label ∈ d.labels, source.clamp label.span = label.span) ∧
      (Report.ofDiagnostic source d).marks = some (d.labels.map Report.Mark.unclamped)

/-- A path that stands in a query fails in place. -/
theorem resolveText_inPlace (occurs : Text.OccursAt query path offset)
    (failed : ((resolveText schema root path offset).run store).value = .error d) :
    InPlace query path offset d := by
  obtain ⟨labelled, labels⟩ := resolveText_labels failed
  have onSegment : ∀ label ∈ d.labels, OnSegment query path offset label.span := by
    intro label here
    obtain ⟨segment, listed, same⟩ := labels label here
    rw [← same]
    exact onSegment_of_mem occurs listed
  refine ⟨labelled, onSegment, ?_⟩
  rintro source rfl
  have fits : ∀ label ∈ d.labels, source.clamp label.span = label.span := by
    intro label here
    obtain ⟨⟨-, ordered, -⟩, ⟨-, stops⟩, -⟩ := onSegment label here
    exact SourceText.clamp_eq_self ordered stops.le_rawEndPos
  exact ⟨fits, Report.marks_ofDiagnostic labelled fits⟩

/-- The paths of a query are walked one after the other, and each has a result of its own. -/
theorem resolveAll_value (schema : Schema) (root : String) (offsets : String → Nat)
    (paths : List String) (store : Store) :
    ∃ results, ((paths.mapM fun path =>
        (liftM (resolveText schema root path (offsets path)).run : Attempt Refusal _)).run
          store).value = .ok results ∧
      List.Forall₂ (fun path result => ∃ store,
        ((resolveText schema root path (offsets path)).run store).value = result)
        paths results := by
  induction paths generalizing store with
  | nil => exact ⟨[], rfl, .nil⟩
  | cons path paths ih =>
    let first : Attempt Refusal (Except Diagnostic QueryType) :=
      liftM (resolveText schema root path (offsets path)).run
    have value : (first.run store).value =
        .ok ((resolveText schema root path (offsets path)).run store).value := rfl
    obtain ⟨results, others, each⟩ := ih (first.run store).store
    refine ⟨_ :: results, ?_, .cons ⟨store, rfl⟩ each⟩
    rw [List.mapM_cons, (Attempt.run_bind_ok _ value).1, (Attempt.run_bind_ok _ others).1]
    rfl

end Navigation

/-! ## Sessions -/

namespace Session

variable {s : Session}

/-- An open session looks for each path of a query where it first stands in it. -/
theorem step_query (isOpen : s.isOpen) (query root : String) (paths : List String) :
    ∃ results, (s.step (.ask (.query query root paths))).answer = .navigatedAll results ∧
      List.Forall₂ (fun path result => ∃ store,
        ((Navigation.resolveText s.schema root path
          ((Text.byteOffset? path.toList query.toList).getD 0)).run store).value = result)
        paths results := by
  obtain ⟨results, value, each⟩ := Navigation.resolveAll_value s.schema root
    (fun path => (Text.byteOffset? path.toList query.toList).getD 0) paths s.store
  have answered : ((s.answer (.query query root paths)).run s.store).value =
      .ok (.navigatedAll results) := by
    show ((Answer.navigatedAll <$> _ : Attempt Refusal Answer).run s.store).value = _
    rw [map_eq_pure_bind, (Attempt.run_bind_ok _ value).1]
    rfl
  refine ⟨results, ?_, each⟩
  rw [step_ask isOpen rfl, (s.look_reply _).1, answered]

/-- **Labels are in place.** Let a session be open, in whatever state, and take any query. If a path
stands in the query and is refused there, then its diagnostic is in place. If the session is asked
for some paths of the query at once, it has a result for each of them, and the diagnostics of those
that are refused are in place where the path first stands in the query. -/
theorem labels_in_place (s : Session) (isOpen : s.isOpen) (query root : String) :
    (∀ path offset d, Text.OccursAt query path offset →
      (s.step (.ask (.path root path offset))).answer = .navigated (.error d) →
        Navigation.InPlace query path offset d) ∧
    (∀ paths, ∃ results,
      (s.step (.ask (.query query root paths))).answer = .navigatedAll results ∧
        List.Forall₂ (fun path result => ∀ offset d, Text.FirstAt query path offset →
          result = .error d → Navigation.InPlace query path offset d) paths results) := by
  refine ⟨?_, ?_⟩
  · intro path offset d occurs refused
    rw [(step_path isOpen root path offset).1] at refused
    exact Navigation.resolveText_inPlace occurs (Answer.navigated.inj refused)
  · intro paths
    obtain ⟨results, answer, each⟩ := step_query isOpen query root paths
    refine ⟨results, answer, each.imp ?_⟩
    rintro path result ⟨store, value⟩ offset d first rfl
    rw [Text.byteOffset?_eq_some_iff.mpr first] at value
    exact Navigation.resolveText_inPlace first.1 value

/-- The value of a coin is a number, so that it has no sum. The alias of the shop takes up two
bytes, and stands in the query once before the path does. What comes before the coins is a path as
well, with an empty segment at its end. -/
theorem sum_is_marked :
    let s := ((start [.mapping shop] {} .standard .collecting).run [.entity "Item" .describe]).2
    let query := "from Shop ü where ü.till.coins.value.sum > 0"
    let path := "ü.till.coins.value.sum"
    let front := "ü.till."
    let d := Navigation.notNavigable ⟨"sum", ⟨39, 42⟩⟩ (.scalar .integer) ⟨33, 38⟩
    let empty := Navigation.emptySegment ⟨"", ⟨27, 27⟩⟩
    s.isOpen ∧ Text.FirstAt query path 19 ∧ Text.FirstAt query front 19 ∧
      (s.step (.ask (.path "Shop" path 19))).answer = .navigated (.error d) ∧
      (s.step (.ask (.path "Shop" front 19))).answer = .navigated (.error empty) ∧
      Navigation.InPlace query path 19 d ∧ Navigation.InPlace query front 19 empty ∧
      (Report.ofDiagnostic ⟨query, none⟩ d).marks =
        some [⟨39, 3, "no such attribute", true⟩, ⟨33, 5, "this has type Integer", false⟩] ∧
      ∃ result, (s.step (.ask (.query query "Shop" [path]))).answer = .navigatedAll [result] ∧
        ∀ d, result = .error d → Navigation.InPlace query path 19 d := by
  intro s query path front d empty
  have isOpen : s.isOpen := by decide +kernel
  have first : Text.FirstAt query path 19 := Text.byteOffset?_eq_some_iff.mp (by decide +kernel)
  have first' : Text.FirstAt query front 19 := Text.byteOffset?_eq_some_iff.mp (by decide +kernel)
  have refused : (s.step (.ask (.path "Shop" path 19))).answer = .navigated (.error d) :=
    answer_path isOpen (by decide +kernel)
  have refused' : (s.step (.ask (.path "Shop" front 19))).answer = .navigated (.error empty) :=
    answer_path isOpen (by decide +kernel)
  obtain ⟨single, all⟩ := labels_in_place s isOpen query "Shop"
  have inPlace := single path 19 d first.1 refused
  have inPlace' := single front 19 empty first'.1 refused'
  have marks := (inPlace.reported ⟨query, none⟩ rfl).2
  obtain ⟨results, answer, each⟩ := all [path]
  cases each with
  | @cons _ result _ _ here none =>
    cases none
    exact ⟨isOpen, first, first', refused, refused', inPlace, inPlace', marks, result, answer,
      fun d failed => here 19 d first failed⟩

end Session

end EntityQuery
