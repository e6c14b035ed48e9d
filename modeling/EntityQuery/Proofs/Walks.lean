import EntityQuery.Proofs.Lookups

/-!
# Attempts and walks

An attempt goes on from a success and stops at a failure. The first half opens sequences of
attempts accordingly and shows that they are made of parts when each of them is. The second half
applies this to navigation. A walk asks its owner for types, and its owner is a known entity all
along: the walk starts at a realized one and only ever moves to another realized one.
-/

namespace EntityQuery

/-! ## Attempts -/

namespace Attempt

variable {α β ε ε' : Type} {store : Store}

theorem run_bind_ok {x : Attempt ε α} {a : α} (f : α → Attempt ε β)
    (value : (x.run store).value = .ok a) :
    ((x >>= f).run store).value = ((f a).run (x.run store).store).value ∧
      ((x >>= f).run store).store = ((f a).run (x.run store).store).store := by
  rw [ExceptT.run_bind, Lookup.bind_value, Lookup.bind_store, value]
  exact ⟨rfl, rfl⟩

theorem run_bind_error {x : Attempt ε α} {e : ε} (f : α → Attempt ε β)
    (value : (x.run store).value = .error e) :
    ((x >>= f).run store).value = .error e ∧
      ((x >>= f).run store).store = (x.run store).store := by
  rw [ExceptT.run_bind, Lookup.bind_value, Lookup.bind_store, value]
  exact ⟨rfl, rfl⟩

theorem run_lift_bind (m : Lookup α) (f : α → Attempt ε β) (store : Store) :
    (((liftM m : Attempt ε α) >>= f).run store).value =
        ((f (m store).value).run (m store).store).value ∧
      (((liftM m : Attempt ε α) >>= f).run store).store =
        ((f (m store).value).run (m store).store).store :=
  run_bind_ok f rfl

/-- A reading passes on what it reads. -/
theorem run_read_bind (g : Store → α) (f : α → Attempt ε β) (store : Store) :
    ((liftM (Lookup.read g) : Attempt ε α) >>= f).run store = (f (g store)).run store := rfl

/-- A sequence succeeds if both its parts do. -/
theorem bind_ok {x : Attempt ε α} {f : α → Attempt ε β} {b : β}
    (value : ((x >>= f).run store).value = .ok b) :
    ∃ a, (x.run store).value = .ok a ∧ ((f a).run (x.run store).store).value = .ok b ∧
      ((x >>= f).run store).store = ((f a).run (x.run store).store).store := by
  cases first : (x.run store).value with
  | error e =>
    rw [(run_bind_error f first).1] at value
    cases value
  | ok a =>
    obtain ⟨same, after⟩ := run_bind_ok f first
    rw [same] at value
    exact ⟨a, rfl, value, after⟩

/-- A sequence fails if its first part does, or the second does after it. -/
theorem bind_error {x : Attempt ε α} {f : α → Attempt ε β} {e : ε}
    (value : ((x >>= f).run store).value = .error e) :
    (x.run store).value = .error e ∨
      ∃ a, (x.run store).value = .ok a ∧ ((f a).run (x.run store).store).value = .error e := by
  cases first : (x.run store).value with
  | error e' =>
    rw [(run_bind_error f first).1] at value
    cases value
    exact .inl rfl
  | ok a =>
    rw [(run_bind_ok f first).1] at value
    exact .inr ⟨a, rfl, value⟩

/-- An attempt whose result is only put differently. -/
theorem map_value (f : α → β) (x : Attempt ε α) (store : Store) :
    ((do return f (← x) : Attempt ε β).run store).value = (x.run store).value.map f := by
  cases first : (x.run store).value with
  | error e => exact (run_bind_error _ first).1
  | ok a => exact (run_bind_ok _ first).1

theorem adapt_value (f : ε → ε') (x : Attempt ε α) (store : Store) :
    ((x.adapt f).run store).value = (x.run store).value.mapError f := rfl

theorem ok_of_adapt {f : ε → ε'} {x : Attempt ε α} {a : α}
    (value : ((x.adapt f).run store).value = .ok a) : (x.run store).value = .ok a := by
  rw [adapt_value] at value
  cases inner : (x.run store).value with
  | error e =>
    rw [inner] at value
    cases value
  | ok b =>
    rw [inner] at value
    cases value
    rfl

theorem error_of_adapt {f : ε → ε'} {x : Attempt ε α} {e' : ε'}
    (value : ((x.adapt f).run store).value = .error e') :
    ∃ e, (x.run store).value = .error e ∧ e' = f e := by
  rw [adapt_value] at value
  cases inner : (x.run store).value with
  | error e =>
    rw [inner] at value
    cases value
    exact ⟨e, rfl, rfl⟩
  | ok a =>
    rw [inner] at value
    cases value

end Attempt

namespace Lookup.MadeOf

variable {schema : Schema} {store : Store} {α β ε ε' : Type}

theorem map {m : Lookup α} (f : α → β) (made : m.MadeOf schema store) :
    (f <$> m).MadeOf schema store := by
  rw [map_eq_pure_bind]
  exact .bind made (.pure _)

theorem ok (a : α) : (Pure.pure a : Attempt ε α).run.MadeOf schema store := .pure _

theorem fail (e : ε) : (throw e : Attempt ε α).run.MadeOf schema store := .pure _

theorem lift {m : Lookup α} (made : m.MadeOf schema store) :
    (liftM m : Attempt ε α).run.MadeOf schema store :=
  made.map _

theorem adapt {x : Attempt ε α} (f : ε → ε') (made : x.run.MadeOf schema store) :
    (x.adapt f).run.MadeOf schema store :=
  made.map _

/-- A sequence of attempts is made of parts if the first is, and the second is where it is
reached. -/
theorem andThen {x : Attempt ε α} {f : α → Attempt ε β} (first : x.run.MadeOf schema store)
    (next : ∀ a, (x.run store).value = .ok a → (f a).run.MadeOf schema (x.run store).store) :
    (x >>= f).run.MadeOf schema store := by
  rw [ExceptT.run_bind]
  refine .bind first ?_
  cases value : (x.run store).value with
  | ok a => exact next a value
  | error e => exact .pure _

theorem mapOk {x : Attempt ε α} (f : α → β) (made : x.run.MadeOf schema store) :
    (f <$> x).run.MadeOf schema store := by
  rw [map_eq_pure_bind]
  exact made.andThen fun _ _ => .ok _

end Lookup.MadeOf

theorem Descriptor.requireType_madeOf {schema : Schema} {store : Store} {d : Descriptor}
    (known : d ∈ store.descriptors) (path : String) :
    (d.requireType path).run.MadeOf schema store := by
  refine .andThen (.lift (.propertyType known path)) fun type _ => ?_
  cases type with
  | some type => exact .ok type
  | none => exact .fail _

theorem Schema.referencedType_madeOf (schema : Schema) (name path : String) (store : Store) :
    (schema.referencedType name path).run.MadeOf schema store :=
  .andThen (.realize name) fun _ realized =>
    Descriptor.requireType_madeOf (realize_known realized).1 path

/-! ## Walks -/

namespace Navigation

variable {schema : Schema} {store : Store} {cursor next : Cursor} {segment : Segment}

theorem diagnosedAt_realize_known {name : String} {span : Span} {d : Descriptor}
    (realized : ((diagnosedAt span (schema.realize name)).run store).value = .ok d) :
    d ∈ ((diagnosedAt span (schema.realize name)).run store).store.descriptors :=
  (Schema.realize_known (Attempt.ok_of_adapt realized)).1

namespace Cursor

theorem target_madeOf (schema : Schema) (cursor : Cursor) (store : Store) :
    (cursor.target schema).run.MadeOf schema store := by
  unfold target
  split
  · exact .andThen (.adapt _ (schema.describeRole_madeOf _ store)) fun _ _ => .ok _
  · exact .ok _

theorem approach_madeOf (schema : Schema) (cursor : Cursor) (target : QueryType)
    (segment : Segment) (store : Store) :
    (cursor.approach schema target segment).run.MadeOf schema store := by
  unfold approach
  split
  · exact .andThen (.adapt _ (.realize _)) fun _ _ => .ok _
  · split
    · exact .ok _
    · split
      · exact .ok _
      · exact .fail _
  · exact .fail _

/-- A walk moves to realized entities only. -/
theorem approach_known {target : QueryType} (known : cursor.owner ∈ store.descriptors)
    (value : ((cursor.approach schema target segment).run store).value = .ok next) :
    next.owner ∈ ((cursor.approach schema target segment).run store).store.descriptors := by
  have stays := (cursor.approach_madeOf schema target segment store).reaches.grows.mem known
  unfold approach at value stays ⊢
  split at value
  · obtain ⟨owner, realized, same, after⟩ := Attempt.bind_ok value
    cases same
    rw [after]
    exact diagnosedAt_realize_known realized
  · split at value
    · cases value
      exact stays
    · split at value
      · cases value
        exact stays
      · cases value
  · cases value

theorem typeHere_madeOf (schema : Schema) (known : cursor.owner ∈ store.descriptors) :
    cursor.typeHere.MadeOf schema store := by
  unfold typeHere
  split
  · exact .pure _
  · exact .propertyType known _

theorem settle_madeOf (schema : Schema) (known : cursor.owner ∈ store.descriptors)
    (segment : Segment) : (cursor.settle segment).run.MadeOf schema store := by
  refine .andThen (.lift (.emit _ rfl)) fun _ _ => ?_
  refine .andThen (.lift (typeHere_madeOf schema known)) ?_
  intro type _
  cases type with
  | some type => exact .ok _
  | none => exact .fail _

/-- What can come of a segment: its type is read, or there is none. -/
theorem settle_cases (cursor : Cursor) (segment : Segment) (store : Store) :
    (∃ type, (cursor.typeHere store).value = some type ∧
      ((cursor.settle segment).run store).value =
        .ok { cursor with current := type, previous := segment.span } ∧
      ((cursor.settle segment).run store).store = (cursor.typeHere store).store) ∨
    ((cursor.typeHere store).value = none ∧
      ((cursor.settle segment).run store).value =
        .error ((SchemaError.noSuchProperty cursor.holder cursor.relative).diagnose segment.span) ∧
      ((cursor.settle segment).run store).store = (cursor.typeHere store).store) := by
  have told : ∀ event : Event, (Lookup.emit event store).store = store := fun _ => rfl
  unfold settle
  rw [(Attempt.run_lift_bind _ _ _).1, (Attempt.run_lift_bind _ _ _).2, told,
    (Attempt.run_lift_bind _ _ _).1, (Attempt.run_lift_bind _ _ _).2]
  cases (cursor.typeHere store).value with
  | some type => exact .inl ⟨type, rfl, rfl, rfl⟩
  | none => exact .inr ⟨rfl, rfl, rfl⟩

theorem settle_owner (value : ((cursor.settle segment).run store).value = .ok next) :
    next.owner = cursor.owner := by
  rcases cursor.settle_cases segment store with ⟨_, _, value', _⟩ | ⟨_, value', _⟩
  · rw [value] at value'
    cases value'
    rfl
  · rw [value] at value'
    cases value'

theorem advance_of_empty (empty : segment.name.isEmpty) :
    cursor.advance schema segment = throw (emptySegment segment) := by
  unfold advance
  dsimp only
  rw [if_pos empty]
  rfl

theorem advance_of_named (named : ¬ segment.name.isEmpty) :
    cursor.advance schema segment = (do
      let target ← cursor.target schema
      let next ← cursor.approach schema target segment
      next.settle segment) := by
  unfold advance
  dsimp only
  rw [if_neg named]

theorem advance_madeOf (known : cursor.owner ∈ store.descriptors) (segment : Segment) :
    (cursor.advance schema segment).run.MadeOf schema store := by
  by_cases empty : segment.name.isEmpty
  · rw [advance_of_empty empty]
    exact .fail _
  · rw [advance_of_named empty]
    refine .andThen (cursor.target_madeOf schema store) fun target _ => ?_
    have known' := (cursor.target_madeOf schema store).reaches.grows.mem known
    refine .andThen (cursor.approach_madeOf schema target segment _) fun next approached => ?_
    exact settle_madeOf schema (approach_known known' approached) segment

theorem advance_known (known : cursor.owner ∈ store.descriptors)
    (value : ((cursor.advance schema segment).run store).value = .ok next) :
    next.owner ∈ ((cursor.advance schema segment).run store).store.descriptors := by
  by_cases empty : segment.name.isEmpty
  · rw [advance_of_empty empty] at value
    cases value
  · rw [advance_of_named empty] at value ⊢
    obtain ⟨target, _, value, after⟩ := Attempt.bind_ok value
    have known' := (cursor.target_madeOf schema store).reaches.grows.mem known
    obtain ⟨near, approached, settled, after'⟩ := Attempt.bind_ok value
    have here := approach_known known' approached
    rw [after, after', settle_owner settled]
    exact (settle_madeOf schema here segment).reaches.grows.mem here

/-- A walk of any length is made of parts. -/
theorem walk_madeOf (path : List Segment) (known : cursor.owner ∈ store.descriptors) :
    (path.foldlM (advance schema) cursor).run.MadeOf schema store := by
  induction path generalizing cursor store with
  | nil => exact .ok _
  | cons segment path ih =>
    rw [List.foldlM_cons]
    exact .andThen (advance_madeOf known segment) fun _ moved => ih (advance_known known moved)

end Cursor

theorem resolve_madeOf (schema : Schema) (root : String) (rootSpan : Span)
    (path : List Segment) (store : Store) :
    (resolve schema root rootSpan path).run.MadeOf schema store := by
  refine .andThen (.adapt _ (.realize root)) fun owner realized => ?_
  exact .andThen (Cursor.walk_madeOf path (diagnosedAt_realize_known realized)) fun _ _ => .ok _

theorem resolveText_madeOf (schema : Schema) (root text : String) (offset : Nat)
    (store : Store) : (resolveText schema root text offset).run.MadeOf schema store := by
  unfold resolveText
  split
  · exact .fail _
  · split
    · exact .fail _
    · exact resolve_madeOf schema root _ _ store

end Navigation

end EntityQuery
