import EntityQuery.Proofs.Collections

/-!
# Going on from a collection

A walk that has come to a collection does not go on from the element type that it holds. It looks
the role of the collection up, and goes on from the elements of what it finds. If the last segment
was read on an entity, the role is that of an entity that declares the collection, and so there is
always something to find. It is the collection itself unless a longer owner declares what is left
of the role (`Session.collection_goes_on`).

Roles are read from the right, so a longer owner comes first by design, also if what it declares is
no collection (`Session.collection_breaks_off`). It is a gap, however, that a collection inside an
element of a collection has a role that starts with the class of the component. If this class is no
entity, the role leads nowhere, although the type of the elements is at hand
(`Session.Sound.refused_inside_element`).
-/

namespace EntityQuery.Navigation

variable {schema : Schema} {store : Store} {cursor near next : Cursor} {segment : Segment}

/-! ## Walks, with the cursor at their end -/

/-- The walk of a path from a root entity. -/
def walk (schema : Schema) (root : String) (rootSpan : Span) (path : List Segment) :
    Attempt Diagnostic Cursor := do
  let owner ← diagnosedAt rootSpan (schema.realize root)
  path.foldlM (Cursor.advance schema) (Cursor.start owner rootSpan)

/-- The type at the end of a path is where its walk ends. -/
theorem resolve_eq_walk (schema : Schema) (root : String) (rootSpan : Span)
    (path : List Segment) :
    resolve schema root rootSpan path =
      (do return (← walk schema root rootSpan path).current) := by
  unfold resolve walk
  rw [bind_assoc]

/-- A walk is that of its first part, gone on with. -/
theorem walk_append_path (schema : Schema) (root : String) (rootSpan : Span)
    (before after : List Segment) :
    walk schema root rootSpan (before ++ after) =
      (do after.foldlM (Cursor.advance schema) (← walk schema root rootSpan before)) := by
  unfold walk
  rw [bind_assoc]
  refine congrArg _ (funext fun owner => ?_)
  rw [List.foldlM_append]

/-- One segment more is one step further. -/
theorem walk_append (schema : Schema) (root : String) (rootSpan : Span) (path : List Segment)
    (segment : Segment) :
    walk schema root rootSpan (path ++ [segment]) =
      (do (← walk schema root rootSpan path).advance schema segment) := by
  rw [walk_append_path]
  refine congrArg _ (funext fun cursor => ?_)
  rw [List.foldlM_cons]
  exact bind_pure _

theorem walk_repeatable (faithful : store.Faithful schema) (root : String) (rootSpan : Span)
    (path : List Segment) : (walk schema root rootSpan path).Repeatable store := by
  refine .bind (.adapt _ (schema.realize_repeatable root store)) fun owner realized => ?_
  have faithful' := (schema.realize_reaches root store).faithful faithful
  exact Cursor.walk_repeatable path faithful' (diagnosedAt_realize_known realized)

/-! ## What the owner of a cursor remembers -/

/-- **The cursor stands where its owner says**: the owner is known, and unless the path is relative
to a component class, the walk has just begun or the owner remembers the type that is here. On a
component class, the owner reads the type from the class. -/
structure Cursor.Placed (store : Store) (cursor : Cursor) : Prop where
  known : cursor.owner ∈ store.descriptors
  held : cursor.component = none →
    cursor.current = cursor.owner.entityType ∨
      store.memo? cursor.owner.name cursor.relative = some cursor.current
  inside : ∀ className, cursor.component = some className →
    cursor.owner.componentType? className cursor.relative = some cursor.current

namespace Cursor

/-- A segment that has been read is named. -/
theorem named_of_advance (value : ((cursor.advance schema segment).run store).value = .ok next) :
    ¬ segment.name.isEmpty := by
  intro empty
  rw [advance_of_empty empty] at value
  cases value

theorem typeHere_of_owner (onOwner : cursor.component = none) :
    cursor.typeHere = cursor.owner.propertyType cursor.relative := by
  unfold typeHere
  rw [onOwner]

theorem typeHere_of_component {className : String} (onClass : cursor.component = some className) :
    cursor.typeHere = pure (cursor.owner.componentType? className cursor.relative) := by
  unfold typeHere
  rw [onClass]

/-- A segment that has been read has a type, and the cursor stands at it. -/
theorem settle_eq_ok (value : ((near.settle segment).run store).value = .ok next) :
    ∃ type, (near.typeHere store).value = some type ∧
      next = { near with current := type, previous := segment.span } ∧
      ((near.settle segment).run store).store = (near.typeHere store).store := by
  rcases near.settle_cases segment store with ⟨type, read, value', after⟩ | ⟨_, value', _⟩
  · exact ⟨type, read, Except.ok.inj (value.symm.trans value'), after⟩
  · cases value.symm.trans value'

theorem settle_placed (schema : Schema) (known : near.owner ∈ store.descriptors)
    (value : ((near.settle segment).run store).value = .ok next) :
    next.Placed ((near.settle segment).run store).store := by
  have stays := (settle_madeOf schema known segment).reaches.grows.mem known
  obtain ⟨type, read, rfl, after⟩ := settle_eq_ok value
  refine ⟨stays, ?_, ?_⟩
  · intro onOwner
    dsimp only at onOwner ⊢
    rw [typeHere_of_owner onOwner] at read after
    rw [after]
    exact .inr (Descriptor.propertyType_remembers known read)
  · intro className onClass
    dsimp only at onClass ⊢
    rw [typeHere_of_component onClass] at read
    exact read

theorem advance_placed (known : cursor.owner ∈ store.descriptors)
    (value : ((cursor.advance schema segment).run store).value = .ok next) :
    next.Placed ((cursor.advance schema segment).run store).store := by
  have named := named_of_advance value
  rw [advance_of_named named] at value ⊢
  obtain ⟨target, _, value, after⟩ := Attempt.bind_ok value
  have known' := (cursor.target_madeOf schema store).reaches.grows.mem known
  obtain ⟨near, approached, settled, after'⟩ := Attempt.bind_ok value
  rw [after, after']
  exact settle_placed schema (approach_known known' approached) settled

/-- A walk of any length stays where its owners say. -/
theorem foldlM_placed (path : List Segment) (placed : cursor.Placed store)
    (value : ((path.foldlM (advance schema) cursor).run store).value = .ok next) :
    next.Placed ((path.foldlM (advance schema) cursor).run store).store := by
  induction path generalizing cursor store with
  | nil =>
    cases value
    exact placed
  | cons segment path ih =>
    rw [List.foldlM_cons] at value ⊢
    obtain ⟨near, moved, value, after⟩ := Attempt.bind_ok value
    rw [after]
    exact ih (advance_placed placed.known moved) value

end Cursor

theorem walk_placed {root : String} {rootSpan : Span} {path : List Segment}
    (value : ((walk schema root rootSpan path).run store).value = .ok cursor) :
    cursor.Placed ((walk schema root rootSpan path).run store).store := by
  unfold walk at value ⊢
  obtain ⟨owner, realized, value, after⟩ := Attempt.bind_ok value
  rw [after]
  exact Cursor.foldlM_placed path ⟨diagnosedAt_realize_known realized, fun _ => .inl rfl, nofun⟩
    value

/-! ## One segment on the elements of a collection -/

/-- A segment read on the elements of a collection that the cursor stands at. Entities are realized
and asked; components are read on their class, by the owner; nothing else has attributes. -/
def Cursor.onElements (schema : Schema) (cursor : Cursor) (element : QueryType)
    (segment : Segment) : Attempt Diagnostic QueryType :=
  match element with
  | .entity name => do
    let owner ← diagnosedAt cursor.previous (schema.realize name)
    diagnosedAt segment.span (owner.requireType segment.name)
  | .embedded className =>
    match cursor.owner.componentType? className segment.name with
    | some type => pure type
    | none => throw ((SchemaError.noSuchProperty className segment.name).diagnose segment.span)
  | other => throw (notNavigable segment other cursor.previous)

namespace Cursor

/-- A step from a collection looks its role up, and is made on the elements. -/
theorem advance_of_collection {role : String} {kind : Collection.Kind} {element : QueryType}
    {key : Option QueryType} (collected : cursor.current = .collection role kind element key)
    (named : ¬ segment.name.isEmpty) :
    cursor.advance schema segment = (do
      let r ← diagnosedAt cursor.previous (schema.describeRole role)
      let near ← cursor.approach schema r.elementType segment
      near.settle segment) := by
  rw [advance_of_named named]
  unfold target
  rw [collected]
  dsimp only
  rw [bind_assoc]
  rfl

/-- What is read on an owner is what the owner requires. -/
theorem settle_value_of_owner (onOwner : near.component = none) (segment : Segment)
    (store : Store) :
    ((do return (← near.settle segment).current : Attempt Diagnostic QueryType).run store).value =
      ((diagnosedAt segment.span (near.owner.requireType near.relative)).run store).value := by
  have here := typeHere_of_owner onOwner
  have holder : near.holder = near.owner.name := by
    unfold holder
    rw [onOwner]
    rfl
  unfold diagnosedAt Descriptor.requireType
  rw [Attempt.adapt_value, (Attempt.run_lift_bind _ _ _).1, ← here]
  rcases near.settle_cases segment store with ⟨type, read, value, _⟩ | ⟨missing, value, _⟩
  · rw [(Attempt.run_bind_ok _ value).1, read]
    rfl
  · rw [(Attempt.run_bind_error _ value).1, missing, holder]
    rfl

/-- A step from a collection reads the segment on the elements. -/
theorem approach_elements (collected : cursor.current.isCollection) (element : QueryType)
    (segment : Segment) (store : Store) :
    ((do
      let near ← cursor.approach schema element segment
      return (← near.settle segment).current : Attempt Diagnostic QueryType).run store).value =
      ((cursor.onElements schema element segment).run store).value := by
  cases element with
  | entity name =>
    unfold approach onElements
    dsimp only
    rw [bind_assoc]
    cases realized : ((diagnosedAt cursor.previous (schema.realize name)).run store).value with
    | ok owner =>
      rw [(Attempt.run_bind_ok _ realized).1, (Attempt.run_bind_ok _ realized).1, pure_bind]
      exact settle_value_of_owner rfl segment _
    | error e => rw [(Attempt.run_bind_error _ realized).1, (Attempt.run_bind_error _ realized).1]
  | embedded className =>
    unfold approach onElements
    dsimp only
    rw [if_pos collected, pure_bind]
    let near : Cursor := { cursor with component := some className, relative := segment.name }
    have here : (near.typeHere store).value =
        cursor.owner.componentType? className segment.name := rfl
    rcases near.settle_cases segment store with ⟨type, read, value, _⟩ | ⟨missing, value, _⟩
    · rw [(Attempt.run_bind_ok _ value).1, ← here, read]
      rfl
    · rw [(Attempt.run_bind_error _ value).1, ← here, missing]
      rfl
  | _ => rfl

/-- **A step from a collection, by what the schema decides on for its role.** -/
theorem advance_from_collection (faithful : store.Faithful schema)
    (decided : store.Decided schema) {role : String} {kind : Collection.Kind}
    {element : QueryType} {key : Option QueryType}
    (collected : cursor.current = .collection role kind element key)
    (named : ¬ segment.name.isEmpty) :
    ((do return (← cursor.advance schema segment).current :
      Attempt Diagnostic QueryType).run store).value =
      (match schema.decideRole role (Text.ownerPathSplits role) with
        | .ok r => ((cursor.onElements schema r.elementType segment).run
            ((schema.describeRole role).run store).store).value
        | .error e => .error (e.diagnose cursor.previous)) := by
  have described := Schema.describeRole_value faithful decided role
  have isCollection : cursor.current.isCollection := by
    rw [collected]
    rfl
  have diagnosed : ((diagnosedAt cursor.previous (schema.describeRole role)).run store).value =
      ((schema.describeRole role).run store).value.mapError (·.diagnose cursor.previous) := rfl
  rw [advance_of_collection collected named, bind_assoc]
  cases decision : schema.decideRole role (Text.ownerPathSplits role) with
  | ok r =>
    rw [described, decision] at diagnosed
    rw [(Attempt.run_bind_ok _ diagnosed).1, bind_assoc]
    exact approach_elements isCollection _ segment _
  | error e =>
    rw [described, decision] at diagnosed
    rw [(Attempt.run_bind_error _ diagnosed).1]

/-- What is read on elements fails only if they are entities that are not mapped, have no such
property, or are nothing that has attributes. -/
theorem onElements_code {element : QueryType} {d : Diagnostic}
    (failed : ((cursor.onElements schema element segment).run store).value = .error d) :
    d.code = some "schema::unmapped_entity" ∨ d.code = some "schema::no_such_property" ∨
      d.code = some "path::not_navigable" := by
  cases element with
  | entity name =>
    unfold onElements at failed
    dsimp only at failed
    have diagnosed : ((diagnosedAt cursor.previous (schema.realize name)).run store).value =
      ((schema.realize name).run store).value.mapError (·.diagnose cursor.previous) := rfl
    cases realized : ((schema.realize name).run store).value with
    | ok owner =>
      rw [realized] at diagnosed
      rw [(Attempt.run_bind_ok _ diagnosed).1] at failed
      unfold diagnosedAt Descriptor.requireType at failed
      rw [Attempt.adapt_value, (Attempt.run_lift_bind _ _ _).1] at failed
      split at failed
      · cases failed
      · cases failed
        exact .inr (.inl rfl)
    | error e =>
      rw [realized] at diagnosed
      rw [(Attempt.run_bind_error _ diagnosed).1] at failed
      cases failed
      rw [Schema.realize_error realized]
      exact .inl rfl
  | embedded className =>
    unfold onElements at failed
    dsimp only at failed
    split at failed
    · cases failed
    · cases failed
      exact .inr (.inl rfl)
  | _ =>
    cases failed
    exact .inr (.inr rfl)

end Cursor

/-- Once a path has been walked, one segment more is a step from where the walk ended. -/
theorem resolve_append (faithful : store.Faithful schema) {root : String} {rootSpan : Span}
    {path : List Segment}
    (walked : ((walk schema root rootSpan path).run store).value = .ok cursor)
    (segment : Segment) :
    let after := ((walk schema root rootSpan path).run store).store
    ((resolve schema root rootSpan (path ++ [segment])).run after).value =
      ((do return (← cursor.advance schema segment).current :
        Attempt Diagnostic QueryType).run after).value := by
  intro after
  obtain ⟨again, still⟩ := (walk_repeatable faithful root rootSpan path).again walked (.refl after)
  rw [resolve_eq_walk, walk_append, bind_assoc, (Attempt.run_bind_ok _ again).1, still]

/-- A collection that a walk has read on an entity is declared by a known entity. -/
theorem Cursor.Placed.collection_source (placed : cursor.Placed store)
    (valid : store.Valid schema) (traced : store.Traced)
    (single : schema.identifier.type.isCollection = false) {role : String}
    {kind : Collection.Kind} {element : QueryType} {key : Option QueryType}
    (collected : cursor.current = .collection role kind element key)
    (onEntity : cursor.component = none) :
    ∃ e ∈ store.descriptors,
      (e = cursor.owner ∨ cursor.owner.declaredType? cursor.relative = none ∧
        Descriptor.Below store.descriptors cursor.owner e) ∧
      role = Descriptor.roleOf e.name cursor.relative ∧
      ∃ shape inner innerKey,
        schema.memberAt? e.name cursor.relative = some (.collection shape inner innerKey) ∧
        (MemberFact.collection shape inner innerKey).typeAt role =
          .collection role kind element key := by
  rcases placed.held onEntity with begun | held
  · rw [collected] at begun
    cases begun
  · rw [collected] at held
    exact Schema.collection_source valid single placed.known (traced _ placed.known held)

end EntityQuery.Navigation

namespace EntityQuery.Session

variable {s : Session}

/-- A session that has walked a path, and what it answers to one segment more. -/
theorem Sound.segments_beyond (sound : s.Sound) (isOpen : s.isOpen) {root role : String}
    {rootSpan : Span} {path : List Navigation.Segment} {cursor : Navigation.Cursor}
    {kind : Collection.Kind} {element : QueryType} {key : Option QueryType}
    (walked : ((Navigation.walk s.schema root rootSpan path).run s.store).value = .ok cursor)
    (collected : cursor.current = .collection role kind element key)
    {segment : Navigation.Segment} (named : ¬ segment.name.isEmpty) :
    let accepted := s.step (.ask (.segments root rootSpan path))
    let described := (accepted.session.step (.ask (.role role))).session
    accepted.answer = .navigated (.ok cursor.current) ∧
      cursor.Placed accepted.session.store ∧
      (accepted.session.step (.ask (.segments root rootSpan (path ++ [segment])))).answer =
        .navigated (match s.schema.decideRole role (Text.ownerPathSplits role) with
          | .ok r => ((cursor.onElements s.schema r.elementType segment).run described.store).value
          | .error e => .error (e.diagnose cursor.previous)) := by
  intro accepted described
  have sound' : accepted.session.Sound := sound.run [.ask (.segments root rootSpan path)]
  have schema : accepted.session.schema = s.schema := s.step_schema _
  have isOpen' : accepted.session.isOpen := (s.ask_isOpen _).trans isOpen
  obtain ⟨answer, session⟩ := step_segments isOpen root rootSpan path
  obtain ⟨value, after⟩ := Attempt.run_bind_ok
    (fun cursor : Navigation.Cursor => (pure cursor.current : Attempt Diagnostic QueryType)) walked
  rw [Navigation.resolve_eq_walk, value] at answer
  rw [Navigation.resolve_eq_walk, after] at session
  have store : accepted.session.store =
      ((Navigation.walk s.schema root rootSpan path).run s.store).store :=
    congrArg Session.store session
  refine ⟨answer, store ▸ Navigation.walk_placed walked, ?_⟩
  have faithful := sound'.valid.faithful
  have decided := sound'.decided
  have stored : described.store =
      ((accepted.session.schema.describeRole role).run accepted.session.store).store :=
    congrArg Session.store (step_role isOpen' role).2
  have onward := Navigation.resolve_append sound.valid.faithful walked segment
  dsimp only at onward
  rw [schema] at faithful decided stored
  rw [← store] at onward
  rw [(step_segments isOpen' root rootSpan (path ++ [segment])).1, schema, onward,
    Navigation.Cursor.advance_from_collection faithful decided collected named, stored]

/-- An open session answers with the result of a walk. -/
theorem answer_segments {root : String} {rootSpan : Span} {path : List Navigation.Segment}
    {result : Except Diagnostic QueryType} (isOpen : s.isOpen)
    (value : ((Navigation.resolve s.schema root rootSpan path).run s.store).value = result) :
    (s.step (.ask (.segments root rootSpan path))).answer = .navigated result := by
  rw [(step_segments isOpen root rootSpan path).1, value]

/-- What comes of one segment more, by what the reading that decides the role leads to. -/
theorem Sound.segments_decided (sound : s.Sound) (isOpen : s.isOpen) {root role : String}
    {rootSpan : Span} {path : List Navigation.Segment} {cursor : Navigation.Cursor}
    {kind : Collection.Kind} {element : QueryType} {key : Option QueryType}
    (walked : ((Navigation.walk s.schema root rootSpan path).run s.store).value = .ok cursor)
    (collected : cursor.current = .collection role kind element key)
    {segment : Navigation.Segment} (named : ¬ segment.name.isEmpty) :
    let accepted := s.step (.ask (.segments root rootSpan path))
    let described := (accepted.session.step (.ask (.role role))).session
    let extended :=
      (accepted.session.step (.ask (.segments root rootSpan (path ++ [segment])))).answer
    ∀ owner rest fact, s.schema.Decides role owner rest fact →
      match fact with
      | .collection _ inner _ =>
        extended = .navigated
          ((cursor.onElements s.schema inner.elementType segment).run described.store).value ∧
        ∀ d, extended = .navigated (.error d) →
          d.code = some "schema::unmapped_entity" ∨ d.code = some "schema::no_such_property" ∨
            d.code = some "path::not_navigable"
      | _ => extended =
          .navigated (.error ((SchemaError.notACollection role).diagnose cursor.previous)) := by
  intro accepted described extended owner rest fact decides
  obtain ⟨-, -, outcome⟩ := sound.segments_beyond isOpen walked collected named
  rw [decides.decideRole_eq] at outcome
  cases fact with
  | collection shape inner innerKey =>
    refine ⟨outcome, fun d failed => ?_⟩
    exact Navigation.Cursor.onElements_code (Answer.navigated.inj (outcome.symm.trans failed))
  | _ => exact outcome

/-- **A walk goes on from a collection.** Let a walk in an open session end at a collection. If its
role leads to a collection of the same elements, one segment more is read on these elements, and can
fail only for what they are. If the last segment of the walk was read on an entity, then the role is
that of a known entity with the collection, which is the owner at the end of the walk or one below
it, so that it leads somewhere; and if no longer owner declares what is left of the role, it leads
to the collection itself. Otherwise a longer owner decides, as for every role: the segment is read
on the elements of the collection that it declares, or refused if it declares no collection. -/
theorem collection_goes_on (sources : List Source) (settings : Settings)
    (dialect : Function.Dialect) (sink : Sink) (requests : List Request)
    (isOpen : ((start sources settings dialect sink).run requests).2.isOpen)
    (single : settings.identifier.type.isCollection = false) :
    let schema : Schema := ⟨sources, settings.identifier⟩
    let s := ((start sources settings dialect sink).run requests).2
    ∀ (root : String) (rootSpan : Span) (path : List Navigation.Segment)
      (cursor : Navigation.Cursor) (role : String) (kind : Collection.Kind) (element : QueryType)
      (key : Option QueryType),
      ((Navigation.walk schema root rootSpan path).run s.store).value = .ok cursor →
      cursor.current = .collection role kind element key →
      ∀ segment : Navigation.Segment, ¬ segment.name.isEmpty →
      let accepted := s.step (.ask (.segments root rootSpan path))
      let described := (accepted.session.step (.ask (.role role))).session
      let extended :=
        (accepted.session.step (.ask (.segments root rootSpan (path ++ [segment])))).answer
      let onElements (type : QueryType) :=
        ((cursor.onElements schema type segment).run described.store).value
      let failsForElements := ∀ d, extended = .navigated (.error d) →
        d.code = some "schema::unmapped_entity" ∨ d.code = some "schema::no_such_property" ∨
          d.code = some "path::not_navigable"
      accepted.answer = .navigated (.ok (.collection role kind element key)) ∧
      (∀ owner rest shape inner innerKey,
        schema.Decides role owner rest (.collection shape inner innerKey) →
        inner.elementType = element →
        extended = .navigated (onElements element) ∧ failsForElements) ∧
      (cursor.component = none →
        ∃ e ∈ accepted.session.store.descriptors,
          (e = cursor.owner ∨ cursor.owner.declaredType? cursor.relative = none ∧
            Descriptor.Below accepted.session.store.descriptors cursor.owner e) ∧
          role = Descriptor.roleOf e.name cursor.relative ∧
          (∃ shape inner innerKey,
            schema.memberAt? e.name cursor.relative = some (.collection shape inner innerKey) ∧
            inner.elementType = element) ∧
          (schema.Foremost role e.name →
            extended = .navigated (onElements element) ∧ failsForElements) ∧
          (¬ schema.Foremost role e.name →
            ∃ owner rest fact, schema.Decides role owner rest fact ∧
              e.name.length < owner.length ∧
              match fact with
              | .collection _ inner _ =>
                extended = .navigated (onElements inner.elementType) ∧ failsForElements
              | _ => extended =
                .navigated (.error ((SchemaError.notACollection role).diagnose cursor.previous))) ∧
          ∀ d, extended = .navigated (.error d) →
            d.code ≠ some "schema::unmapped_collection") := by
  intro schema s root rootSpan path cursor role kind element key walked collected segment named
    accepted described extended onElements failsForElements
  have sound : s.Sound := (start_sound sources settings dialect sink).run requests
  have sound' : accepted.session.Sound := sound.run [.ask (.segments root rootSpan path)]
  have same : s.schema = schema := run_schema _ requests
  have valid := sound'.valid
  rw [(s.step_schema _).trans same] at valid
  rw [← same] at walked
  obtain ⟨answer, placed, -⟩ := sound.segments_beyond isOpen walked collected named
  have decided := sound.segments_decided isOpen walked collected named
  rw [same] at decided
  refine ⟨collected ▸ answer, ?_, ?_⟩
  · rintro owner rest shape inner innerKey decides rfl
    exact decided owner rest _ decides
  · intro onEntity
    obtain ⟨e, here, origin, roleEq, shape, inner, innerKey, member, typed⟩ :=
      placed.collection_source valid sound'.traced single collected onEntity
    obtain rfl := (MemberFact.typeAt_collection typed).2.1
    refine ⟨e, here, origin, roleEq, ⟨shape, inner, innerKey, member, rfl⟩, ?_, ?_, ?_⟩
    · intro foremost
      exact decided _ _ _ ⟨roleEq, member, foremost⟩
    · intro later
      obtain ⟨owner, rest, fact, decides, longer⟩ := Schema.exists_longer_decides later
      exact ⟨owner, rest, fact, decides, longer, decided _ _ _ decides⟩
    · intro d failed unmapped
      obtain ⟨owner, rest, fact, decides⟩ | nothing := schema.decides_or_none role
      · have outcome := decided _ _ _ decides
        cases fact with
        | collection shape inner innerKey =>
          rcases outcome.2 d failed with code | code | code <;> simp [code] at unmapped
        | _ =>
          cases failed.symm.trans outcome
          simp [SchemaError.diagnose, SchemaError.code] at unmapped
      · rw [nothing e.name cursor.relative roleEq] at member
        cases member

/-- From the coins in the till of a shop, a walk goes on to their value. -/
theorem value_of_coins :
    let schema : Schema := ⟨[.mapping shop], ⟨"id", .scalar .integer⟩⟩
    let s := ((start [.mapping shop] {} .standard .collecting).run [.entity "Item" .describe]).2
    let path : List Navigation.Segment := [⟨"till", ⟨2, 6⟩⟩, ⟨"coins", ⟨7, 12⟩⟩]
    let segment : Navigation.Segment := ⟨"value", ⟨13, 18⟩⟩
    let accepted := s.step (.ask (.segments "Shop" ⟨0, 1⟩ path))
    let described := (accepted.session.step (.ask (.role "Shop.till.coins"))).session
    let extended :=
      (accepted.session.step (.ask (.segments "Shop" ⟨0, 1⟩ (path ++ [segment])))).answer
    s.isOpen ∧
      accepted.answer = .navigated (.ok (.collection "Shop.till.coins" .map (.entity "Money")
        (some (.scalar .string)))) ∧
      extended = .navigated (.ok (.scalar .integer)) ∧
      ∃ cursor : Navigation.Cursor, cursor.component = none ∧ extended = .navigated
        ((cursor.onElements schema (.entity "Money") segment).run described.store).value := by
  intro schema s path segment accepted described extended
  have isOpen : s.isOpen := by decide +kernel
  have value : extended = .navigated (.ok (.scalar .integer)) :=
    answer_segments (by decide +kernel) (by decide +kernel)
  have reached : ((Navigation.walk schema "Shop" ⟨0, 1⟩ path).run s.store).value.toOption.map
      (fun cursor => (cursor.owner.name, (cursor.owner.declaredType? cursor.relative).isSome,
        cursor.component, cursor.current)) =
      some ("Shop", true, none, .collection "Shop.till.coins" .map (.entity "Money")
        (some (.scalar .string))) := by decide +kernel
  cases walked : ((Navigation.walk schema "Shop" ⟨0, 1⟩ path).run s.store).value with
  | error _ =>
    rw [walked] at reached
    cases reached
  | ok cursor =>
    rw [walked] at reached
    have facts := Option.some.inj reached
    simp only [Prod.mk.injEq] at facts
    obtain ⟨name, own, onEntity, collected⟩ := facts
    obtain ⟨answer, -, goesOn⟩ := collection_goes_on [.mapping shop] {} .standard
      .collecting [.entity "Item" .describe] isOpen rfl "Shop" ⟨0, 1⟩ path cursor _ _ _ _ walked
      collected segment (by decide +kernel)
    obtain ⟨e, -, origin, -, -, goesOn, -, -⟩ := goesOn onEntity
    obtain rfl : e = cursor.owner := origin.resolve_right fun other => by simp [other.1] at own
    rw [name] at goesOn
    have onward := (goesOn shop_decides_coins.foremost).1
    refine ⟨isOpen, answer, value, cursor, onEntity, ?_⟩
    -- with the names in the way, the two sides would be compared by running the session
    unfold extended described accepted s
    exact onward

/-- **A longer owner may stop a walk.** The notes in the till of a shop have a role that the entity
which bears the name of the till decides, and its notes are no collection. -/
theorem collection_breaks_off :
    let s := start [.mapping shop] {} .standard .collecting
    let notes : List Navigation.Segment := [⟨"till", ⟨2, 6⟩⟩, ⟨"notes", ⟨7, 12⟩⟩]
    let walked := s.step (.ask (.segments "Shop" ⟨0, 1⟩ notes))
    walked.answer = .navigated (.ok (.collection "Shop.till.notes" .list (.entity "Money") none)) ∧
      (walked.session.step
        (.ask (.segments "Shop" ⟨0, 1⟩ (notes ++ [⟨"value", ⟨13, 18⟩⟩])))).answer =
        .navigated (.error ((SchemaError.notACollection "Shop.till.notes").diagnose ⟨7, 12⟩)) := by
  intro s notes walked
  refine ⟨answer_segments ?_ ?_, answer_segments ?_ ?_⟩
  all_goals decide +kernel

/-- **A gap: collections inside components that are elements.** Let a walk end at a collection that
was read on a component class. Its role starts with this class, and if no reading of the role leads
to a member, every further segment is refused, whatever the elements are. -/
theorem Sound.refused_inside_element (sound : s.Sound) (isOpen : s.isOpen)
    {root role className : String} {rootSpan : Span} {path : List Navigation.Segment}
    {cursor : Navigation.Cursor} {kind : Collection.Kind} {element : QueryType}
    {key : Option QueryType}
    (walked : ((Navigation.walk s.schema root rootSpan path).run s.store).value = .ok cursor)
    (collected : cursor.current = .collection role kind element key)
    (onClass : cursor.component = some className) {segment : Navigation.Segment}
    (named : ¬ segment.name.isEmpty)
    (nothing : ∀ owner rest, Descriptor.roleOf className cursor.relative =
      Descriptor.roleOf owner rest → s.schema.memberAt? owner rest = none) :
    let accepted := s.step (.ask (.segments root rootSpan path))
    accepted.answer = .navigated (.ok (.collection role kind element key)) ∧
      role = Descriptor.roleOf className cursor.relative ∧
      (accepted.session.step (.ask (.segments root rootSpan (path ++ [segment])))).answer =
        .navigated (.error ((SchemaError.unmappedCollection role).diagnose cursor.previous)) := by
  intro accepted
  obtain ⟨answer, placed, outcome⟩ := sound.segments_beyond isOpen walked collected named
  have typed := placed.inside className onClass
  rw [collected] at typed
  obtain rfl := Descriptor.role_of_componentType? typed
  rw [Schema.decideRole_of_none _ fun split mem =>
    nothing split.1 split.2 (Text.mem_ownerPathSplits.mp mem)] at outcome
  exact ⟨collected ▸ answer, rfl, outcome⟩

-- the items on the racks of a shop are entities with a price, which cannot be asked for
example :
    let schema : Schema := ⟨[.mapping shop], ⟨"id", .scalar .integer⟩⟩
    let store := (start [.mapping shop] {} .standard .collecting).store
    let items : List Navigation.Segment := [⟨"racks", ⟨2, 7⟩⟩, ⟨"items", ⟨8, 13⟩⟩]
    let price : Navigation.Segment := ⟨"price", ⟨14, 19⟩⟩
    ((Navigation.resolve schema "Shop" ⟨0, 1⟩ items).run store).value =
        .ok (.collection "Rack.items" .list (.entity "Item") none) ∧
      ((Navigation.resolve schema "Shop" ⟨0, 1⟩ (items ++ [price])).run store).value =
        .error ((SchemaError.unmappedCollection "Rack.items").diagnose ⟨8, 13⟩) := by
  decide +kernel

end EntityQuery.Session
