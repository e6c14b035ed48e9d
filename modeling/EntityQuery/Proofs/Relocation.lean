import EntityQuery.Proofs.Agreement

/-!
# Spans are only carried along

A walk is handed the spans of its root and its segments, and hands them on to the labels of the
diagnostic if it fails. It never reads them. So let the spans be moved by any function, be it one
that takes them out of the query, turns them around or makes them all the same. The walk then makes
the same look-ups, leaves the same store behind and tells the same events. Its type is the same, and
its diagnostic is the same except that the labels are moved along (`Session.spans_carried_along`).

Two attempts that run in such lockstep are related by `Attempt.Carries`. It is closed under
sequences, so that each part of a walk is looked at once, and the walk follows by induction on the
path.

Where a text stands in the query bears on nothing but the spans of its segments, which it shifts.
No position is beyond the end of the text, so none is taken to overflow where that end does not, be
it before the shift or after it.
-/

namespace EntityQuery

/-! ## Attempts in lockstep -/

namespace Attempt

variable {α β γ δ ε ε' : Type} {onError : ε → ε'} {onResult : α → β}

/-- **The second attempt carries the first along**: on every store they do the same and tell the
same, and what comes of the second is what comes of the first, by way of the two functions. -/
def Carries (onError : ε → ε') (onResult : α → β) (x : Attempt ε α) (y : Attempt ε' β) : Prop :=
  ∀ store, (y.run store).value = ((x.run store).value.map onResult).mapError onError ∧
    (y.run store).store = (x.run store).store ∧ (y.run store).events = (x.run store).events

namespace Carries

theorem ok (a : α) :
    Carries onError onResult (pure a : Attempt ε α) (pure (onResult a) : Attempt ε' β) :=
  fun _ => ⟨rfl, rfl, rfl⟩

theorem fail (e : ε) :
    Carries onError onResult (throw e : Attempt ε α) (throw (onError e) : Attempt ε' β) :=
  fun _ => ⟨rfl, rfl, rfl⟩

/-- A look-up that cannot fail carries itself. -/
theorem lift (m : Lookup α) :
    Carries onError id (liftM m : Attempt ε α) (liftM m : Attempt ε' α) :=
  fun _ => ⟨rfl, rfl, rfl⟩

/-- A test that both attempts make takes them the same way. -/
theorem branch {test : Prop} [Decidable test] {x x' : Attempt ε α} {y y' : Attempt ε' β}
    (holds : Carries onError onResult x y) (fails : Carries onError onResult x' y') :
    Carries onError onResult (if test then x else x') (if test then y else y') := by
  split
  · exact holds
  · exact fails

/-- What is carried along goes on to be carried along. -/
theorem bind {x : Attempt ε α} {y : Attempt ε' β} {f : α → Attempt ε γ} {g : β → Attempt ε' δ}
    {onEnd : γ → δ} (first : Carries onError onResult x y)
    (next : ∀ a, Carries onError onEnd (f a) (g (onResult a))) :
    Carries onError onEnd (x >>= f) (y >>= g) := by
  intro store
  obtain ⟨value, after, events⟩ := first store
  rw [ExceptT.run_bind, ExceptT.run_bind]
  simp only [Lookup.bind_value, Lookup.bind_store, Lookup.bind_events, value, after, events]
  cases (x.run store).value with
  | ok a =>
    obtain ⟨value', after', events'⟩ := next a (x.run store).store
    exact ⟨value', after', congrArg _ events'⟩
  | error e => exact ⟨rfl, rfl, rfl⟩

end Carries

end Attempt

/-! ## Walks -/

/-- The span moved on by some bytes. -/
def Span.shift (distance : Nat) (span : Span) : Span :=
  ⟨span.start + distance, span.stop + distance⟩

namespace Navigation

/-- The segment moved along `f`. -/
def Segment.mapSpan (f : Span → Span) (segment : Segment) : Segment :=
  { segment with span := f segment.span }

/-- The cursor with its last span moved along `f`. -/
def Cursor.mapSpan (f : Span → Span) (cursor : Cursor) : Cursor :=
  { cursor with previous := f cursor.previous }

variable {schema : Schema} (f : Span → Span)

theorem diagnosedAt_carries {α : Type} (span : Span) (attempt : Attempt SchemaError α) :
    Attempt.Carries (·.mapSpans f) id (diagnosedAt span attempt)
      (diagnosedAt (f span) attempt) := by
  intro store
  refine ⟨?_, rfl, rfl⟩
  unfold diagnosedAt
  rw [Attempt.adapt_value, Attempt.adapt_value]
  cases (attempt.run store).value <;> rfl

namespace Cursor

theorem target_carries (schema : Schema) (cursor : Cursor) :
    Attempt.Carries (·.mapSpans f) id (cursor.target schema)
      ((cursor.mapSpan f).target schema) := by
  unfold target mapSpan
  dsimp only
  split
  · exact (diagnosedAt_carries f _ _).bind fun _ => .ok _
  · exact .ok _

theorem approach_carries (schema : Schema) (cursor : Cursor) (target : QueryType)
    (segment : Segment) :
    Attempt.Carries (·.mapSpans f) (mapSpan f) (cursor.approach schema target segment)
      ((cursor.mapSpan f).approach schema target (segment.mapSpan f)) := by
  unfold approach
  cases target with
  | entity name => exact (diagnosedAt_carries f _ _).bind fun _ => .ok _
  | embedded className =>
    exact .branch (.ok _) (.branch (.ok _) (.fail _))
  | _ => exact .fail _

theorem settle_carries (cursor : Cursor) (segment : Segment) :
    Attempt.Carries (·.mapSpans f) (mapSpan f) (cursor.settle segment)
      ((cursor.mapSpan f).settle (segment.mapSpan f)) := by
  refine (Attempt.Carries.lift _).bind fun _ => ?_
  refine (Attempt.Carries.lift _).bind fun type => ?_
  cases type with
  | some type => exact .ok _
  | none => exact .fail _

/-- One step carries its span along. -/
theorem advance_carries (schema : Schema) (cursor : Cursor) (segment : Segment) :
    Attempt.Carries (·.mapSpans f) (mapSpan f) (cursor.advance schema segment)
      ((cursor.mapSpan f).advance schema (segment.mapSpan f)) := by
  by_cases empty : segment.name.isEmpty
  · have empty' : (segment.mapSpan f).name.isEmpty := empty
    rw [advance_of_empty empty, advance_of_empty empty']
    exact .fail _
  · have named : ¬ (segment.mapSpan f).name.isEmpty := empty
    rw [advance_of_named empty, advance_of_named named]
    refine (target_carries f schema cursor).bind fun target => ?_
    refine (approach_carries f schema cursor target segment).bind fun near => ?_
    exact settle_carries f near segment

/-- A walk of any length carries its spans along. -/
theorem foldlM_carries (schema : Schema) (path : List Segment) (cursor : Cursor) :
    Attempt.Carries (·.mapSpans f) (mapSpan f) (path.foldlM (advance schema) cursor)
      ((path.map (·.mapSpan f)).foldlM (advance schema) (cursor.mapSpan f)) := by
  induction path generalizing cursor with
  | nil => exact .ok cursor
  | cons segment path ih =>
    rw [List.map_cons, List.foldlM_cons, List.foldlM_cons]
    exact (advance_carries f schema cursor segment).bind ih

end Cursor

/-- **The spans of a path are carried along**, whatever is done to them. -/
theorem resolve_carries (schema : Schema) (root : String) (rootSpan : Span) (path : List Segment) :
    Attempt.Carries (·.mapSpans f) id (resolve schema root rootSpan path)
      (resolve schema root (f rootSpan) (path.map (·.mapSpan f))) := by
  refine (diagnosedAt_carries f rootSpan _).bind fun owner => ?_
  exact (Cursor.foldlM_carries f schema path (.start owner rootSpan)).bind fun _ => .ok _

/-! ## Texts -/

theorem layOut_shift (offset distance : Nat) (names : List String) :
    layOut (offset + distance) names =
      (layOut offset names).map (·.mapSpan (Span.shift distance)) := by
  induction names generalizing offset with
  | nil => rfl
  | cons name names ih =>
    have start : offset + distance + name.utf8ByteSize = offset + name.utf8ByteSize + distance := by
      omega
    have next : offset + name.utf8ByteSize + distance + 1 =
        offset + name.utf8ByteSize + 1 + distance := by
      omega
    unfold layOut
    dsimp only
    rw [start, next, ih]
    rfl

/-- Further on in the query, the segments of a text are shifted. -/
theorem segments_shift (text : String) (offset distance : Nat) :
    segments text (offset + distance) =
      (segments text offset).map (·.mapSpan (Span.shift distance)) :=
  layOut_shift offset distance (Text.dotted text)

/-- **A text is resolved alike wherever it stands**, and its labels are shifted. -/
theorem resolveText_carries (schema : Schema) (root text : String) (offset distance : Nat) :
    Attempt.Carries (·.mapSpans (Span.shift distance)) id (resolveText schema root text offset)
      (resolveText schema root text (offset + distance)) := by
  unfold resolveText
  rw [segments_shift]
  cases segments text offset with
  | nil => exact .fail _
  | cons first rest =>
    exact .branch (.fail _) (resolve_carries (Span.shift distance) schema root first.span rest)

end Navigation

/-! ## Sessions -/

/-- **The second reply carries the first along**: both are about a path, the labels in the second
are moved along `f`, and nothing else is different. -/
def Reply.Carries (f : Span → Span) (here there : Reply) : Prop :=
  ∃ result, here.answer = .navigated result ∧
    there.answer = .navigated (result.mapError (·.mapSpans f)) ∧
    there.session = here.session ∧ there.events = here.events

namespace Session

variable {s : Session}

/-- A session tells of a navigation what is told on the store. -/
theorem look_navigated_events (s : Session) (walk : Attempt Diagnostic QueryType) :
    (s.look (.navigated <$> walk.run)).events = (walk.run s.store).events := by
  -- each of the three steps around the walk tells nothing more
  show (walk.run s.store).events ++ [] ++ [] ++ [] = (walk.run s.store).events
  simp only [List.append_nil]

theorem look_carries (s : Session) {f : Span → Span} {walk other : Attempt Diagnostic QueryType}
    (carries : Attempt.Carries (·.mapSpans f) id walk other) :
    Reply.Carries f (s.look (.navigated <$> walk.run)) (s.look (.navigated <$> other.run)) := by
  obtain ⟨value, store, events⟩ := carries s.store
  refine ⟨(walk.run s.store).value, rfl, ?_, ?_, ?_⟩
  · show Answer.navigated (other.run s.store).value = _
    rw [value]
    cases (walk.run s.store).value <;> rfl
  · show ({ s with store := (other.run s.store).store } : Session) = _
    rw [store]
    rfl
  · rw [look_navigated_events, look_navigated_events, events]

/-- **Spans are only carried along.** Let a session be open, in whatever state, and let it navigate
a path from a root entity. Whatever is done to the spans of the root and the segments, the session
afterwards is the same, and so are the events on the way. The type is the same, or the diagnostic is
the same with the same done to the spans of its labels. In particular, a text that stands further on
in a query is answered in the same way, with the labels moved on as far. -/
theorem spans_carried_along (s : Session) (isOpen : s.isOpen) (root : String) :
    (∀ (f : Span → Span) (rootSpan : Span) (path : List Navigation.Segment),
      Reply.Carries f (s.step (.ask (.segments root rootSpan path)))
        (s.step (.ask (.segments root (f rootSpan) (path.map (·.mapSpan f)))))) ∧
    (∀ (text : String) (offset distance : Nat),
      Reply.Carries (Span.shift distance) (s.step (.ask (.path root text offset)))
        (s.step (.ask (.path root text (offset + distance))))) := by
  refine ⟨?_, ?_⟩
  · intro f rootSpan path
    rw [step_ask isOpen rfl, step_ask isOpen rfl]
    exact s.look_carries (Navigation.resolve_carries f s.schema root rootSpan path)
  · intro text offset distance
    rw [step_ask isOpen rfl, step_ask isOpen rfl]
    exact s.look_carries (Navigation.resolveText_carries s.schema root text offset distance)

/-- The value of the coins in the till of a shop has no sum. This is marked at spans that are turned
around if those of the path are. A till has no gold, wherever in a query it is asked for. -/
theorem sum_marked_backwards :
    let s := ((start [.mapping shop] {} .standard .collecting).run [.entity "Item" .describe]).2
    let turned (span : Span) : Span := ⟨span.stop, span.start⟩
    let path : List Navigation.Segment := [⟨"till", ⟨2, 6⟩⟩, ⟨"coins", ⟨7, 12⟩⟩,
      ⟨"value", ⟨13, 18⟩⟩, ⟨"sum", ⟨19, 22⟩⟩]
    let here := s.step (.ask (.segments "Shop" ⟨0, 1⟩ path))
    let there := s.step (.ask (.segments "Shop" ⟨1, 0⟩ (path.map (·.mapSpan turned))))
    let early := s.step (.ask (.path "Shop" "ü.till.gold" 0))
    let late := s.step (.ask (.path "Shop" "ü.till.gold" (0 + 19)))
    let missing := SchemaError.noSuchProperty "Shop" "till.gold"
    s.isOpen ∧
      (here.answer = .navigated (.error
        (Navigation.notNavigable ⟨"sum", ⟨19, 22⟩⟩ (.scalar .integer) ⟨13, 18⟩)) ∧
      there.answer = .navigated (.error
        (Navigation.notNavigable ⟨"sum", ⟨22, 19⟩⟩ (.scalar .integer) ⟨18, 13⟩)) ∧
      there.session = here.session ∧ there.events = here.events) ∧
      early.answer = .navigated (.error (missing.diagnose ⟨8, 12⟩)) ∧
      late.answer = .navigated (.error (missing.diagnose ⟨27, 31⟩)) ∧
      late.session = early.session ∧ late.events = early.events := by
  intro s turned path here there early late missing
  have isOpen : s.isOpen := by decide +kernel
  have refused : here.answer = .navigated (.error
      (Navigation.notNavigable ⟨"sum", ⟨19, 22⟩⟩ (.scalar .integer) ⟨13, 18⟩)) :=
    answer_segments isOpen (by decide +kernel)
  have lacking : early.answer = .navigated (.error (missing.diagnose ⟨8, 12⟩)) :=
    answer_path isOpen (by decide +kernel)
  obtain ⟨spans, texts⟩ := spans_carried_along s isOpen "Shop"
  obtain ⟨result, answer, moved⟩ := spans turned ⟨0, 1⟩ path
  cases answer.symm.trans refused
  obtain ⟨result', answer', moved'⟩ := texts "ü.till.gold" 0 19
  cases answer'.symm.trans lacking
  exact ⟨isOpen, ⟨refused, moved⟩, lacking, moved'⟩

end Session

end EntityQuery
