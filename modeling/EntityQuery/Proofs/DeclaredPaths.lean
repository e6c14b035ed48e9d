import EntityQuery.Proofs.Agreement

/-!
# Paths of declared properties

A path can be walked by declarations alone. Entities are as the schema describes them, the role of a
collection is as the schema decides, and each property is looked for among those that its entity
declares or inherits, or among those of its component class. Nothing is remembered on the way, and
no subclass is asked. `Navigation.declaredResolve` is this walk, and it is a function of the schema.

Sessions walk differently, since they remember answers, have known subclasses, and remember roles.
None of this shows where the walk by declarations succeeds: every session with the same schema
accepts the path with the same type, whatever it was asked before
(`Session.declared_path_accepted`). The reason is the same at each step. A known entity is what the
schema describes, a remembered role is what the schema decides, and an entity's own type wins over
what it remembers and what is below it.
-/

namespace EntityQuery.Navigation

/-! ## Walks by declarations -/

/-- The entity of a name, by the schema alone. -/
def describeAt (schema : Schema) (span : Span) (name : String) : Except Diagnostic Descriptor :=
  match schema.describe? name with
  | some d => .ok d
  | none => .error ((SchemaError.unmappedEntity name).diagnose span)

namespace Cursor

/-- What the next segment is an attribute of, with roles as the schema decides. -/
def declaredTarget (schema : Schema) (cursor : Cursor) : Except Diagnostic QueryType :=
  match cursor.current with
  | .collection role .. =>
    ((schema.decideRole role (Text.ownerPathSplits role)).mapError
      (·.diagnose cursor.previous)).map (·.elementType)
  | current => .ok current

/-- The cursor with its path brought up to the next segment, with entities as the schema describes
them. -/
def declaredApproach (schema : Schema) (cursor : Cursor) (target : QueryType)
    (segment : Segment) : Except Diagnostic Cursor :=
  match target with
  | .entity name =>
    (describeAt schema cursor.previous name).map fun owner =>
      { cursor with owner, component := none, relative := segment.name }
  | .embedded className =>
    if cursor.current.isCollection then
      .ok { cursor with component := some className, relative := segment.name }
    else if !cursor.relative.isEmpty then
      .ok { cursor with relative := cursor.relative ++ "." ++ segment.name }
    else .error (notNavigable segment target cursor.previous)
  | _ => .error (notNavigable segment target cursor.previous)

/-- The declared type at the path of the cursor. -/
def declaredHere? (cursor : Cursor) : Option QueryType :=
  match cursor.component with
  | some className => cursor.owner.componentType? className cursor.relative
  | none => cursor.owner.declaredType? cursor.relative

/-- The cursor once the declared type of the segment is read. -/
def declaredSettle (cursor : Cursor) (segment : Segment) : Except Diagnostic Cursor :=
  match cursor.declaredHere? with
  | some type => .ok { cursor with current := type, previous := segment.span }
  | none =>
    .error ((SchemaError.noSuchProperty cursor.holder cursor.relative).diagnose segment.span)

/-- One segment further, by declarations. -/
def declaredAdvance (schema : Schema) (cursor : Cursor) (segment : Segment) :
    Except Diagnostic Cursor :=
  if segment.name.isEmpty then .error (emptySegment segment)
  else do
    let target ← cursor.declaredTarget schema
    let next ← cursor.declaredApproach schema target segment
    next.declaredSettle segment

end Cursor

/-- The type at the end of a path, by declarations. -/
def declaredResolve (schema : Schema) (root : String) (rootSpan : Span) (path : List Segment) :
    Except Diagnostic QueryType := do
  let owner ← describeAt schema rootSpan root
  let last ← path.foldlM (Cursor.declaredAdvance schema) (Cursor.start owner rootSpan)
  return last.current

end EntityQuery.Navigation

namespace EntityQuery

/-! ## Stores that have no say -/

/-- What holds of the stores of sessions: all that they hold is in keeping with the schema. -/
structure Store.Sound (schema : Schema) (store : Store) : Prop where
  valid : store.Valid schema
  traced : store.Traced
  decided : store.Decided schema

theorem Store.Sound.reaches {schema : Schema} {before after : Store} (sound : before.Sound schema)
    (reaches : schema.Reaches before after) : after.Sound schema where
  valid := reaches.valid sound.valid
  traced := reaches.traced sound.valid sound.traced
  decided := reaches.keeps_of_valid (fun valid move decided => move.decided valid decided)
    sound.valid sound.decided

/-- **The attempt bears out a result that was found by declarations**: it gives the same result,
unless that is for want of a declared property. -/
def Attempt.BearsOut {α : Type} (x : Attempt Diagnostic α) (store : Store)
    (declared : Except Diagnostic α) : Prop :=
  (x.run store).value = declared ∨
    ∃ d, declared = .error d ∧ d.code = some "schema::no_such_property"

/-- A sequence is borne out if both its parts are. -/
theorem Attempt.BearsOut.bind {α β : Type} {store : Store} {x : Attempt Diagnostic α}
    {f : α → Attempt Diagnostic β} {declared : Except Diagnostic α}
    {next : α → Except Diagnostic β} (first : x.BearsOut store declared)
    (second : ∀ a, (x.run store).value = .ok a → (f a).BearsOut (x.run store).store (next a)) :
    (x >>= f).BearsOut store (declared >>= next) := by
  rcases first with same | ⟨d, rfl, missing⟩
  · cases declared with
    | error d => exact .inl (run_bind_error f same).1
    | ok a =>
      refine (second a same).imp_left fun value => ?_
      exact (run_bind_ok f same).1.trans value
  · exact .inr ⟨d, rfl, missing⟩

namespace Navigation

variable {schema : Schema} {store : Store} {cursor : Cursor} {segment : Segment}

theorem diagnosedAt_realize_value (faithful : store.Faithful schema) (span : Span)
    (name : String) :
    ((diagnosedAt span (schema.realize name)).run store).value = describeAt schema span name := by
  unfold diagnosedAt describeAt
  rw [Attempt.adapt_value, Schema.realize_value faithful]
  cases schema.describe? name with
  | some d => rfl
  | none => rfl

namespace Cursor

theorem target_value (sound : store.Sound schema) (cursor : Cursor) :
    ((cursor.target schema).run store).value = cursor.declaredTarget schema := by
  unfold target declaredTarget
  cases cursor.current with
  | collection role kind element key =>
    dsimp only
    rw [Attempt.map_value, ← Schema.describeRole_value sound.valid.faithful sound.decided]
    rfl
  | _ => rfl

theorem approach_value (faithful : store.Faithful schema) (cursor : Cursor) (target : QueryType)
    (segment : Segment) :
    ((cursor.approach schema target segment).run store).value =
      cursor.declaredApproach schema target segment := by
  unfold approach declaredApproach
  cases target with
  | entity name =>
    dsimp only
    rw [Attempt.map_value, diagnosedAt_realize_value faithful]
  | embedded className =>
    dsimp only
    split
    · rfl
    · split
      · rfl
      · rfl
  | _ => rfl

/-- A declared type is read, whatever the owner remembers and whatever is below it. -/
theorem typeHere_of_declared (sound : store.Sound schema)
    (known : cursor.owner ∈ store.descriptors) {type : QueryType}
    (declared : cursor.declaredHere? = some type) : (cursor.typeHere store).value = some type := by
  unfold declaredHere? at declared
  unfold typeHere
  cases component : cursor.component with
  | some className =>
    rw [component] at declared
    exact declared
  | none =>
    rw [component] at declared
    exact Descriptor.propertyType_of_declared sound.traced sound.valid known declared

theorem settle_bearsOut (sound : store.Sound schema) (known : cursor.owner ∈ store.descriptors)
    (segment : Segment) :
    (cursor.settle segment).BearsOut store (cursor.declaredSettle segment) := by
  unfold declaredSettle
  cases declared : cursor.declaredHere? with
  | none =>
    -- a subclass may have the property, so that the session goes on where the declarations end
    exact .inr ⟨_, rfl, rfl⟩
  | some type =>
    have read := typeHere_of_declared sound known declared
    rcases cursor.settle_cases segment store with ⟨type', read', value, _⟩ | ⟨missing, _⟩
    · rw [read] at read'
      cases read'
      exact .inl value
    · rw [read] at missing
      cases missing

/-- A step is borne out from every known entity. -/
theorem advance_bearsOut (sound : store.Sound schema) (known : cursor.owner ∈ store.descriptors)
    (segment : Segment) :
    (cursor.advance schema segment).BearsOut store (cursor.declaredAdvance schema segment) := by
  unfold declaredAdvance
  by_cases empty : segment.name.isEmpty
  · rw [advance_of_empty empty, if_pos empty]
    exact .inl rfl
  · rw [advance_of_named empty, if_neg empty]
    refine .bind (.inl (target_value sound cursor)) fun target _ => ?_
    have reaches := (cursor.target_madeOf schema store).reaches
    have sound' := sound.reaches reaches
    refine .bind (.inl (approach_value sound'.valid.faithful cursor target segment)) ?_
    intro next approached
    have known' := approach_known (reaches.grows.mem known) approached
    exact settle_bearsOut
      (sound'.reaches (cursor.approach_madeOf schema target segment _).reaches) known' segment

/-- A walk of any length is borne out. -/
theorem foldlM_bearsOut (path : List Segment) (sound : store.Sound schema)
    (known : cursor.owner ∈ store.descriptors) :
    Attempt.BearsOut (path.foldlM (advance schema) cursor) store
      (path.foldlM (declaredAdvance schema) cursor) := by
  induction path generalizing cursor store with
  | nil => exact .inl rfl
  | cons segment path ih =>
    rw [List.foldlM_cons, List.foldlM_cons]
    refine .bind (advance_bearsOut sound known segment) fun next moved => ?_
    exact ih (sound.reaches (advance_madeOf known segment).reaches) (advance_known known moved)

end Cursor

theorem resolve_bearsOut (sound : store.Sound schema) (root : String) (rootSpan : Span)
    (path : List Segment) :
    (resolve schema root rootSpan path).BearsOut store
      (declaredResolve schema root rootSpan path) := by
  refine .bind (.inl (diagnosedAt_realize_value sound.valid.faithful rootSpan root)) ?_
  intro owner realized
  have sound' := sound.reaches (schema.realize_reaches root store)
  have known := diagnosedAt_realize_known realized
  exact .bind (Cursor.foldlM_bearsOut path sound' known) fun _ _ => .inl rfl

end Navigation

namespace Session

/-- **Paths of declared properties do not depend on the history.** Take any sources and identifier.
If the walk of a path by declarations gives a type, then every session with these sources and this
identifier accepts the path with this type, as long as it is open: in all states it can be in, with
either way to find subclasses. And if that walk fails for any other reason than that a property is
not declared, then every such session refuses the path with the same diagnostic. -/
theorem declared_path_accepted (sources : List Source) (identifier : Identifier) (root : String)
    (rootSpan : Span) (path : List Navigation.Segment) :
    let declared := Navigation.declaredResolve ⟨sources, identifier⟩ root rootSpan path
    ∀ (settings : Settings) (dialect : Function.Dialect) (sink : Sink) (requests : List Request),
      settings.identifier = identifier →
      let s := ((start sources settings dialect sink).run requests).2
      s.isOpen →
      let answer := (s.step (.ask (.segments root rootSpan path))).answer
      (∀ type, declared = .ok type → answer = .navigated (.ok type)) ∧
      (∀ d, declared = .error d → d.code ≠ some "schema::no_such_property" →
        answer = .navigated (.error d)) := by
  intro declared settings dialect sink requests same s isOpen answer
  subst same
  have sound : s.Sound := (start_sound sources settings dialect sink).run requests
  have schema : s.schema = ⟨sources, settings.identifier⟩ := run_schema _ requests
  have borne := Navigation.resolve_bearsOut ⟨sound.valid, sound.traced, sound.decided⟩ root
    rootSpan path
  rw [schema] at borne
  have walked := (step_segments isOpen root rootSpan path).1
  rw [schema] at walked
  refine ⟨?_, ?_⟩
  · intro type accepted
    rcases borne with value | ⟨d, failed, _⟩
    · exact walked.trans (congrArg _ (value.trans accepted))
    · cases failed.symm.trans accepted
  · intro d refused otherwise
    rcases borne with value | ⟨d', failed, missing⟩
    · exact walked.trans (congrArg _ (value.trans refused))
    · cases failed.symm.trans refused
      exact absurd missing otherwise

/-- The place of an order is a town, and its code a number. This stays so when the order has taken
over the code of the port that an export has as its place. -/
theorem code_of_town :
    let settings : Settings := { subclasses := .atCreation }
    let s := ((start [.mapping trade] settings .standard .logging).run
      [.entity "Export" .describe, .entity "Order" (.propertyType "place.code")]).2
    let path : List Navigation.Segment := [⟨"place", ⟨2, 7⟩⟩, ⟨"code", ⟨8, 12⟩⟩]
    Navigation.declaredResolve ⟨[.mapping trade], settings.identifier⟩ "Order" ⟨0, 1⟩ path =
        .ok (.scalar .integer) ∧
      s.isOpen ∧ s.store.memo? "Order" "place.code" = some (.scalar .string) ∧
      (s.step (.ask (.segments "Order" ⟨0, 1⟩ path))).answer =
        .navigated (.ok (.scalar .integer)) := by
  intro settings s path
  have declared : Navigation.declaredResolve ⟨[.mapping trade], settings.identifier⟩ "Order"
      ⟨0, 1⟩ path = .ok (.scalar .integer) := by decide +kernel
  have isOpen : s.isOpen := by decide +kernel
  have taken : s.store.memo? "Order" "place.code" = some (.scalar .string) := by decide +kernel
  have accepted := (declared_path_accepted _ _ _ _ path settings _ _ _ rfl isOpen).1 _ declared
  exact ⟨declared, isOpen, taken, accepted⟩

end Session

end EntityQuery
