import EntityQuery.Proofs.Elements

/-!
# A walk fails once

A walk stops at the first segment that it cannot read, and what comes after that segment has no
bearing on the diagnostic. So a path that fails has a length at which it starts to fail: all shorter
prefixes are accepted, and all others fail in the same way (`Session.path_fails_once`). The
diagnostic says where this is. It has one primary label, and its code tells whether the label is on
the segment that could not be read or on what stands before it.

`Navigation.Failure` lists the ways to fail at a segment. That there are no others is shown on any
store, so nothing here depends on what the session was asked before.
-/

namespace EntityQuery.Navigation

variable {schema : Schema} {store : Store} {cursor next : Cursor} {segment : Segment}
  {root : String} {rootSpan previous : Span} {path before after : List Segment} {d : Diagnostic}

/-! ## The ways to fail -/

/-- **The ways to fail at a segment**, after what stands at `previous`. The first three are marked
at the segment, the others before it. -/
inductive Failure (previous : Span) (segment : Segment) : Diagnostic → Prop
  | empty : Failure previous segment (emptySegment segment)
  | notNavigable (target : QueryType) :
      Failure previous segment (notNavigable segment target previous)
  | noSuchProperty (holder path : String) :
      Failure previous segment ((SchemaError.noSuchProperty holder path).diagnose segment.span)
  | unmappedEntity (name : String) :
      Failure previous segment ((SchemaError.unmappedEntity name).diagnose previous)
  | unmappedCollection (role : String) :
      Failure previous segment ((SchemaError.unmappedCollection role).diagnose previous)
  | notACollection (role : String) :
      Failure previous segment ((SchemaError.notACollection role).diagnose previous)

theorem diagnosedAt_realize_error {name : String} {span : Span}
    (failed : ((diagnosedAt span (schema.realize name)).run store).value = .error d) :
    d = (SchemaError.unmappedEntity name).diagnose span := by
  obtain ⟨e, missing, rfl⟩ := Attempt.error_of_adapt failed
  rw [Schema.realize_error missing]

namespace Cursor

theorem target_failure (failed : ((cursor.target schema).run store).value = .error d) :
    Failure cursor.previous segment d := by
  unfold target at failed
  split at failed
  · rcases Attempt.bind_error failed with undescribed | ⟨_, _, failed⟩
    · obtain ⟨e, missing, rfl⟩ := Attempt.error_of_adapt undescribed
      rcases Schema.describeRole_error missing with rfl | rfl
      · exact .unmappedCollection _
      · exact .notACollection _
    · cases failed
  · cases failed

theorem approach_failure {target : QueryType}
    (failed : ((cursor.approach schema target segment).run store).value = .error d) :
    Failure cursor.previous segment d := by
  unfold approach at failed
  split at failed
  · rcases Attempt.bind_error failed with unmapped | ⟨_, _, failed⟩
    · rw [diagnosedAt_realize_error unmapped]
      exact .unmappedEntity _
    · cases failed
  · split at failed
    · cases failed
    · split at failed
      · cases failed
      · cases failed
        exact .notNavigable _
  · cases failed
    exact .notNavigable _

theorem settle_failure (failed : ((cursor.settle segment).run store).value = .error d) :
    Failure previous segment d := by
  rcases cursor.settle_cases segment store with ⟨_, _, value, _⟩ | ⟨_, value, _⟩
  · rw [value] at failed
    cases failed
  · rw [value] at failed
    cases failed
    exact .noSuchProperty _ _

/-- A segment that cannot be read is reported in one of the ways to fail at it. -/
theorem advance_failure (failed : ((cursor.advance schema segment).run store).value = .error d) :
    Failure cursor.previous segment d := by
  by_cases empty : segment.name.isEmpty
  · rw [advance_of_empty empty] at failed
    cases failed
    exact .empty
  · rw [advance_of_named empty] at failed
    rcases Attempt.bind_error failed with failed | ⟨target, _, failed⟩
    · exact target_failure failed
    · rcases Attempt.bind_error failed with failed | ⟨near, _, failed⟩
      · exact approach_failure failed
      · exact settle_failure failed

theorem advance_previous (value : ((cursor.advance schema segment).run store).value = .ok next) :
    next.previous = segment.span := by
  rw [advance_of_named (named_of_advance value)] at value
  obtain ⟨target, _, value, _⟩ := Attempt.bind_ok value
  obtain ⟨near, _, value, _⟩ := Attempt.bind_ok value
  obtain ⟨type, _, rfl, _⟩ := settle_eq_ok value
  rfl

/-- A walk keeps the span of the segment that it has come to. -/
theorem foldlM_previous
    (value : ((path.foldlM (advance schema) cursor).run store).value = .ok next) :
    (cursor.previous :: path.map (·.span))[path.length]? = some next.previous := by
  induction path generalizing cursor store with
  | nil =>
    cases value
    rfl
  | cons segment path ih =>
    rw [List.foldlM_cons] at value
    obtain ⟨near, moved, value, _⟩ := Attempt.bind_ok value
    have reached := ih value
    rw [advance_previous moved] at reached
    simpa using reached

/-- A walk that fails has come to a segment that cannot be read. -/
theorem foldlM_failure
    (failed : ((path.foldlM (advance schema) cursor).run store).value = .error d) :
    ∃ before segment after near, path = before ++ segment :: after ∧
      ((before.foldlM (advance schema) cursor).run store).value = .ok near ∧
      ((near.advance schema segment).run
        ((before.foldlM (advance schema) cursor).run store).store).value = .error d := by
  induction path generalizing cursor store with
  | nil => cases failed
  | cons segment path ih =>
    rw [List.foldlM_cons] at failed
    rcases Attempt.bind_error failed with here | ⟨next, moved, later⟩
    · exact ⟨[], segment, path, cursor, rfl, rfl, here⟩
    · obtain ⟨before, segment', after, near, rfl, walked, stuck⟩ := ih later
      obtain ⟨value, store'⟩ := Attempt.run_bind_ok
        (fun c => before.foldlM (advance schema) c) moved
      refine ⟨segment :: before, segment', after, near, rfl, ?_, ?_⟩
      · rw [List.foldlM_cons, value]
        exact walked
      · rw [List.foldlM_cons, store']
        exact stuck

end Cursor

/-! ## Prefixes -/

theorem resolve_value (schema : Schema) (root : String) (rootSpan : Span) (path : List Segment)
    (store : Store) :
    ((resolve schema root rootSpan path).run store).value =
      ((walk schema root rootSpan path).run store).value.map (·.current) := by
  rw [resolve_eq_walk]
  exact Attempt.map_value _ _ store

/-- What is accepted is accepted up to any of its segments. -/
theorem resolve_prefix_ok {type : QueryType}
    (accepted : ((resolve schema root rootSpan (before ++ after)).run store).value = .ok type) :
    ∃ type, ((resolve schema root rootSpan before).run store).value = .ok type := by
  rw [resolve_eq_walk, walk_append_path] at accepted
  obtain ⟨_, walked, _⟩ := Attempt.bind_ok accepted
  obtain ⟨cursor, walked, _⟩ := Attempt.bind_ok walked
  refine ⟨cursor.current, ?_⟩
  rw [resolve_value, walked]
  rfl

/-- What fails fails in the same way whatever comes after it. -/
theorem resolve_error_append
    (failed : ((resolve schema root rootSpan before).run store).value = .error d)
    (after : List Segment) :
    ((resolve schema root rootSpan (before ++ after)).run store).value = .error d := by
  rw [resolve_value] at failed ⊢
  cases walked : ((walk schema root rootSpan before).run store).value with
  | ok cursor =>
    rw [walked] at failed
    cases failed
  | error d' =>
    rw [walked] at failed
    cases failed
    rw [walk_append_path, (Attempt.run_bind_error _ walked).1]
    rfl

/-! ## Where the failure is marked -/

/-- The spans along a path, that of the root first. -/
def spans (rootSpan : Span) (path : List Segment) : List Span := rootSpan :: path.map (·.span)

theorem spans_append (rootSpan : Span) (before after : List Segment) :
    spans rootSpan (before ++ after) = spans rootSpan before ++ after.map (·.span) := by
  simp [spans]

/-- The codes of failures that are marked at the segment which cannot be read. -/
def ownCodes : List String := ["path::empty", "path::not_navigable", "schema::no_such_property"]

/-- The codes of failures that are marked at what stands before that segment. -/
def priorCodes : List String :=
  ["schema::unmapped_entity", "schema::unmapped_collection", "schema::not_a_collection"]

/-- **The diagnostic marks the failure** of a path that starts to fail at length `k`. It is an error
with one primary label. If there is no root entity, the label is on the root. Otherwise it is on the
last segment of the prefix of length `k`, or on what stands before that, depending on the code; and
if something has no attributes, the only secondary label shows what it is. -/
structure Marks (rootSpan : Span) (path : List Segment) (k : Nat) (d : Diagnostic) : Prop where
  severity : d.severity = .error
  code : ∃ code ∈ ownCodes ++ priorCodes, d.code = some code
  primary : ∃ label, d.labels.filter (·.role = .primary) = [label] ∧
    (k = 0 → d.code = some "schema::unmapped_entity" ∧ label.span = rootSpan) ∧
    (0 < k → ∀ code ∈ ownCodes, d.code = some code →
      (spans rootSpan path)[k]? = some label.span) ∧
    (0 < k → ∀ code ∈ priorCodes, d.code = some code →
      (spans rootSpan path)[k - 1]? = some label.span)
  secondary : d.code = some "path::not_navigable" →
    ∃ label, d.labels.filter (·.role = .secondary) = [label] ∧
      (spans rootSpan path)[k - 1]? = some label.span

theorem not_prior_of_own : ∀ code ∈ ownCodes, code ∉ priorCodes := by decide

theorem Marks.own {k : Nat} {label : Label} (code : String) (severity : d.severity = .error)
    (coded : d.code = some code) (own : code ∈ ownCodes)
    (primary : d.labels.filter (·.role = .primary) = [label])
    (here : (spans rootSpan path)[k + 1]? = some label.span)
    (secondary : code = "path::not_navigable" →
      ∃ label, d.labels.filter (·.role = .secondary) = [label] ∧
        (spans rootSpan path)[k]? = some label.span) :
    Marks rootSpan path (k + 1) d where
  severity := severity
  code := ⟨code, List.mem_append_left _ own, coded⟩
  primary := by
    refine ⟨label, primary, nofun, fun _ _ _ _ => here, ?_⟩
    intro _ code' prior coded'
    rw [coded] at coded'
    cases coded'
    exact absurd prior (not_prior_of_own _ own)
  secondary coded' := secondary (Option.some.inj (coded.symm.trans coded'))

theorem Marks.prior {k : Nat} {label : Label} (code : String) (severity : d.severity = .error)
    (coded : d.code = some code) (prior : code ∈ priorCodes)
    (primary : d.labels.filter (·.role = .primary) = [label])
    (there : (spans rootSpan path)[k]? = some label.span) :
    Marks rootSpan path (k + 1) d where
  severity := severity
  code := ⟨code, List.mem_append_right _ prior, coded⟩
  primary := by
    refine ⟨label, primary, nofun, ?_, fun _ _ _ _ => there⟩
    intro _ code' own coded'
    rw [coded] at coded'
    cases coded'
    exact absurd prior (not_prior_of_own _ own)
  secondary coded' := by
    cases coded.symm.trans coded'
    exact absurd prior (by decide)

/-- A failure at a segment is marked there or before. -/
theorem Failure.marks (failure : Failure previous segment d) {k : Nat}
    (here : (spans rootSpan path)[k + 1]? = some segment.span)
    (there : (spans rootSpan path)[k]? = some previous) : Marks rootSpan path (k + 1) d := by
  cases failure with
  | empty => exact .own "path::empty" rfl rfl (by decide) rfl here nofun
  | notNavigable target =>
    exact .own "path::not_navigable" rfl rfl (by decide) rfl here fun _ => ⟨_, rfl, there⟩
  | noSuchProperty holder path =>
    exact .own "schema::no_such_property" rfl rfl (by decide) rfl here nofun
  | unmappedEntity name => exact .prior "schema::unmapped_entity" rfl rfl (by decide) rfl there
  | unmappedCollection role =>
    exact .prior "schema::unmapped_collection" rfl rfl (by decide) rfl there
  | notACollection role => exact .prior "schema::not_a_collection" rfl rfl (by decide) rfl there

/-- A root that is no entity is marked itself. -/
theorem marks_root (rootSpan : Span) (path : List Segment) (name : String) :
    Marks rootSpan path 0 ((SchemaError.unmappedEntity name).diagnose rootSpan) where
  severity := rfl
  code := ⟨"schema::unmapped_entity", by decide, rfl⟩
  primary := ⟨_, rfl, fun _ => ⟨rfl, rfl⟩, nofun, nofun⟩
  secondary coded := absurd coded (by simp [SchemaError.diagnose, SchemaError.code])

/-- A walk that fails has no root entity, or has come to a segment that cannot be read. -/
theorem walk_failure (failed : ((walk schema root rootSpan path).run store).value = .error d) :
    (d = (SchemaError.unmappedEntity root).diagnose rootSpan ∧
      ((walk schema root rootSpan []).run store).value = .error d) ∨
    ∃ before segment after near, path = before ++ segment :: after ∧
      ((walk schema root rootSpan before).run store).value = .ok near ∧
      (spans rootSpan before)[before.length]? = some near.previous ∧
      ((near.advance schema segment).run
        ((walk schema root rootSpan before).run store).store).value = .error d := by
  rcases Attempt.bind_error failed with unmapped | ⟨owner, realized, failed⟩
  · exact .inl ⟨diagnosedAt_realize_error unmapped, (Attempt.run_bind_error _ unmapped).1⟩
  · obtain ⟨before, segment, after, near, rfl, walked, stuck⟩ := Cursor.foldlM_failure failed
    obtain ⟨value, store'⟩ := Attempt.run_bind_ok
      (fun d => before.foldlM (Cursor.advance schema) (.start d rootSpan)) realized
    refine .inr ⟨before, segment, after, near, rfl, value.trans walked,
      Cursor.foldlM_previous walked, ?_⟩
    unfold walk
    rw [store']
    exact stuck

/-- A path without a type is one whose walk fails. -/
theorem walk_error (failed : ((resolve schema root rootSpan path).run store).value = .error d) :
    ((walk schema root rootSpan path).run store).value = .error d := by
  rw [resolve_eq_walk] at failed
  rcases Attempt.bind_error failed with failed | ⟨_, _, failed⟩
  · exact failed
  · cases failed

/-- **A walk that fails does so from some length on**, and the diagnostic marks it. -/
theorem resolve_fails
    (failed : ((resolve schema root rootSpan path).run store).value = .error d) :
    ∃ k ≤ path.length,
      (∀ j < k, ∃ type, ((resolve schema root rootSpan (path.take j)).run store).value = .ok type) ∧
      (∀ j ≥ k, ((resolve schema root rootSpan (path.take j)).run store).value = .error d) ∧
      Marks rootSpan path k d := by
  rcases walk_failure (walk_error failed) with ⟨rfl, unmapped⟩ |
    ⟨before, segment, after, near, rfl, walked, last, stuck⟩
  · -- without a root entity, even the empty path fails
    refine ⟨0, Nat.zero_le _, nofun, ?_, marks_root rootSpan path root⟩
    intro j _
    have missed : ((resolve schema root rootSpan []).run store).value =
        .error ((SchemaError.unmappedEntity root).diagnose rootSpan) := by
      rw [resolve_value, unmapped]
      rfl
    exact resolve_error_append missed _
  · -- the walk is stuck one segment beyond what it has read
    refine ⟨before.length + 1, by simp, ?_, ?_, ?_⟩
    · intro j shorter
      have accepted : ((resolve schema root rootSpan before).run store).value =
          .ok near.current := by
        rw [resolve_value, walked]
        rfl
      rw [← List.take_append_drop j before] at accepted
      rw [List.take_append_of_le_length (Nat.le_of_lt_succ shorter)]
      exact resolve_prefix_ok accepted
    · intro j longer
      have missed : ((resolve schema root rootSpan (before ++ [segment])).run store).value =
          .error d := by
        rw [resolve_value, walk_append, (Attempt.run_bind_ok _ walked).1, stuck]
        rfl
      obtain ⟨i, rfl⟩ := Nat.exists_eq_add_of_le longer
      have split : (before ++ segment :: after).take (before.length + 1 + i) =
          (before ++ [segment]) ++ after.take i := by
        rw [Nat.add_assoc, List.take_length_add_append, Nat.add_comm 1 i, List.take_succ_cons,
          List.append_assoc, List.singleton_append]
      rw [split]
      exact resolve_error_append missed _
    · refine (Cursor.advance_failure stuck).marks (by simp [spans]) ?_
      have inside : before.length < (spans rootSpan before).length := by simp [spans]
      rw [spans_append, List.getElem?_append_left inside]
      exact last

end EntityQuery.Navigation

namespace EntityQuery.Session

/-- **A path fails once.** Let a session be open, in whatever state. If it accepts a path, then it
accepts each prefix of it. If it refuses a path, then there is exactly one length at which the path
starts to fail: all shorter prefixes are accepted, and all others are refused with the same
diagnostic. This diagnostic marks the failure. -/
theorem path_fails_once (s : Session) (isOpen : s.isOpen) (root : String) (rootSpan : Span)
    (path : List Navigation.Segment) :
    let answer (path : List Navigation.Segment) :=
      (s.step (.ask (.segments root rootSpan path))).answer
    let failsFrom (d : Diagnostic) (k : Nat) : Prop := k ≤ path.length ∧
      (∀ j < k, ∃ type, answer (path.take j) = .navigated (.ok type)) ∧
      (∀ j ≤ path.length, k ≤ j → answer (path.take j) = .navigated (.error d))
    (∀ type, answer path = .navigated (.ok type) →
      ∀ k, ∃ type, answer (path.take k) = .navigated (.ok type)) ∧
    (∀ d, answer path = .navigated (.error d) →
      ∃ k, (failsFrom d k ∧ ∀ k', failsFrom d k' → k' = k) ∧
        Navigation.Marks rootSpan path k d) := by
  intro answer failsFrom
  have walked : ∀ path, answer path =
      .navigated ((Navigation.resolve s.schema root rootSpan path).run s.store).value :=
    fun path => (step_segments isOpen root rootSpan path).1
  refine ⟨?_, ?_⟩
  · intro type accepted k
    have value := Answer.navigated.inj ((walked path).symm.trans accepted)
    rw [← List.take_append_drop k path] at value
    obtain ⟨type', value'⟩ := Navigation.resolve_prefix_ok value
    exact ⟨type', (walked _).trans (congrArg _ value')⟩
  · intro d refused
    have value := Answer.navigated.inj ((walked path).symm.trans refused)
    obtain ⟨k, within, shorter, longer, marks⟩ := Navigation.resolve_fails value
    have accepts : ∀ j < k, ∃ type, answer (path.take j) = .navigated (.ok type) := by
      intro j less
      obtain ⟨type, value⟩ := shorter j less
      exact ⟨type, (walked _).trans (congrArg _ value)⟩
    have refuses : ∀ j ≥ k, answer (path.take j) = .navigated (.error d) := by
      intro j more
      exact (walked _).trans (congrArg _ (longer j more))
    refine ⟨k, ⟨⟨within, accepts, fun j _ more => refuses j more⟩, ?_⟩, marks⟩
    rintro k' ⟨within', accepts', refuses'⟩
    -- at the lesser of two such lengths the path is both accepted and refused
    rcases Nat.lt_trichotomy k' k with less | same | less
    · obtain ⟨_, accepted⟩ := accepts k' less
      cases accepted.symm.trans (refuses' k' within' (Nat.le_refl _))
    · exact same
    · obtain ⟨_, accepted⟩ := accepts' k less
      cases accepted.symm.trans (refuses k (Nat.le_refl _))

/-- The value of the coins in the till of a shop is a number. What is asked of it is marked, and
with it the value, whatever else is asked. -/
theorem value_is_no_entity :
    let s := ((start [.mapping shop] {} .standard .collecting).run [.entity "Item" .describe]).2
    let path : List Navigation.Segment := [⟨"till", ⟨2, 6⟩⟩, ⟨"coins", ⟨7, 12⟩⟩,
      ⟨"value", ⟨13, 18⟩⟩, ⟨"sum", ⟨19, 22⟩⟩, ⟨"", ⟨23, 23⟩⟩]
    let answer (path : List Navigation.Segment) :=
      (s.step (.ask (.segments "Shop" ⟨0, 1⟩ path))).answer
    let d := Navigation.notNavigable ⟨"sum", ⟨19, 22⟩⟩ (.scalar .integer) ⟨13, 18⟩
    s.isOpen ∧ answer path = .navigated (.error d) ∧
      (∀ j < 4, ∃ type, answer (path.take j) = .navigated (.ok type)) ∧
      Navigation.Marks ⟨0, 1⟩ path 4 d := by
  intro s path answer d
  have isOpen : s.isOpen := by decide +kernel
  have refused : answer path = .navigated (.error d) := answer_segments isOpen (by decide +kernel)
  have third : answer (path.take 3) = .navigated (.ok (.scalar .integer)) :=
    answer_segments isOpen (by decide +kernel)
  have fourth : answer (path.take 4) = .navigated (.error d) :=
    answer_segments isOpen (by decide +kernel)
  obtain ⟨k, ⟨⟨within, accepts, refuses⟩, -⟩, marks⟩ :=
    (path_fails_once s isOpen "Shop" ⟨0, 1⟩ path).2 d refused
  have more : 3 < k := by
    by_contra less
    cases third.symm.trans (refuses 3 (by decide) (Nat.le_of_not_lt less))
  have less : k ≤ 4 := by
    by_contra more
    obtain ⟨_, accepted⟩ := accepts 4 (Nat.lt_of_not_le more)
    cases fourth.symm.trans accepted
  obtain rfl : k = 4 := Nat.le_antisymm less more
  exact ⟨isOpen, refused, accepts, marks⟩

end EntityQuery.Session
