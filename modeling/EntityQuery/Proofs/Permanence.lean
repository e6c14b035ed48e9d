import EntityQuery.ClassModel.Example
import EntityQuery.Proofs.Sessions

/-!
# Accepted paths stay accepted

A walk that succeeds has left all that it needed in the store: the entities it came through are
known, the types it asked for are remembered, the roles it read are described. A store only grows,
so the same walk finds all of it again at any later time, and then adds nothing. A walk that fails
gives no such promise for later, since what was missing may turn up; but what it has added by then
does not help it, and it fails again at once in the same way.

`Attempt.Repeatable` says this of any attempt. It carries over from two attempts to their sequence,
so that only the parts of a walk have to be looked into.
-/

namespace EntityQuery

namespace Attempt

variable {α β ε ε' : Type} {store : Store}

/-- The attempt gives the result and leaves the store as it is. -/
def Reads (x : Attempt ε α) (store : Store) (result : Except ε α) : Prop :=
  (x.run store).value = result ∧ (x.run store).store = store

/-- **Repeating the attempt adds nothing.** A success comes about again on every store that has
grown from the one it left, and a failure on the one it left. -/
structure Repeatable (x : Attempt ε α) (store : Store) : Prop where
  grows : store.Grows (x.run store).store
  again : ∀ {a : α}, (x.run store).value = .ok a →
    ∀ {later : Store}, (x.run store).store.Grows later → x.Reads later (.ok a)
  fails : ∀ {e : ε}, (x.run store).value = .error e → x.Reads (x.run store).store (.error e)

namespace Reads

theorem bind {x : Attempt ε α} {f : α → Attempt ε β} {a : α} {result : Except ε β}
    (first : x.Reads store (.ok a)) (next : (f a).Reads store result) :
    (x >>= f).Reads store result := by
  obtain ⟨value, after⟩ := run_bind_ok f first.1
  rw [first.2] at value after
  exact ⟨value.trans next.1, after.trans next.2⟩

theorem bind_error {x : Attempt ε α} {e : ε} (f : α → Attempt ε β)
    (first : x.Reads store (.error e)) : (x >>= f).Reads store (.error e) := by
  obtain ⟨value, after⟩ := run_bind_error f first.1
  exact ⟨value, after.trans first.2⟩

theorem adapt {x : Attempt ε α} (f : ε → ε') {result : Except ε α} (reads : x.Reads store result) :
    Attempt.Reads (x.adapt f) store (result.mapError f) := by
  refine ⟨?_, reads.2⟩
  rw [adapt_value, reads.1]

end Reads

namespace Repeatable

theorem ok (a : α) (store : Store) : (pure a : Attempt ε α).Repeatable store where
  grows := .refl store
  again value _ _ := ⟨value, rfl⟩
  fails value := nomatch value

theorem throws (e : ε) (store : Store) : (throw e : Attempt ε α).Repeatable store where
  grows := .refl store
  again value := nomatch value
  fails value := ⟨value, rfl⟩

theorem adapt {x : Attempt ε α} (f : ε → ε') (repeatable : x.Repeatable store) :
    Attempt.Repeatable (x.adapt f) store where
  grows := repeatable.grows
  again value _ later := (repeatable.again (ok_of_adapt value) later).adapt f
  fails {e} value := by
    rw [adapt_value] at value
    cases inner : (x.run store).value with
    | ok a =>
      rw [inner] at value
      cases value
    | error e' =>
      rw [inner] at value
      cases value
      exact (repeatable.fails inner).adapt f

/-- **A sequence is repeatable if both its parts are.** When the second part is repeated, the first
part reads what it left itself. -/
theorem bind {x : Attempt ε α} {f : α → Attempt ε β} (first : x.Repeatable store)
    (next : ∀ a, (x.run store).value = .ok a → (f a).Repeatable (x.run store).store) :
    (x >>= f).Repeatable store := by
  cases value : (x.run store).value with
  | error e =>
    obtain ⟨failed, after⟩ := run_bind_error f value
    refine ⟨?_, ?_, ?_⟩
    · rw [after]
      exact first.grows
    · intro b succeeded
      rw [failed] at succeeded
      cases succeeded
    · intro e' failed'
      rw [failed] at failed'
      cases failed'
      rw [after]
      exact (first.fails value).bind_error f
  | ok a =>
    obtain ⟨same, after⟩ := run_bind_ok f value
    have second := next a value
    refine ⟨?_, ?_, ?_⟩
    · rw [after]
      exact first.grows.trans second.grows
    · intro b succeeded later grown
      rw [same] at succeeded
      rw [after] at grown
      exact (first.again value (second.grows.trans grown)).bind (second.again succeeded grown)
    · intro e failed
      rw [same] at failed
      rw [after]
      exact (first.again value second.grows).bind (second.fails failed)

end Repeatable

end Attempt

/-! ## Entities -/

namespace Schema

variable {schema : Schema} {store later : Store} {name role : String} {d : Descriptor}

/-- A realized entity is found under its name from then on. -/
theorem realize_found (realized : ((schema.realize name).run store).value = .ok d) :
    ∃ k, ((schema.realize name).run store).store.find? name = some k ∧ k.descriptor = d := by
  rcases realize_eq_ok realized with ⟨k, found, same, after⟩ | ⟨unknown, described, after⟩
  · rw [after]
    exact ⟨k, found, same⟩
  · rw [after, ← Option.map_eq_some_iff, Store.find?_descriptor, Store.add_descriptors,
      List.find?_append, ← Store.find?_descriptor, unknown]
    simp [name_of_describe? described]

theorem realize_reads {k : Known} (found : store.find? name = some k) :
    (schema.realize name).Reads store (.ok k.descriptor) := by
  rcases schema.realize_cases name store with
    ⟨_, found', value, after⟩ | ⟨_, unknown, _⟩ | ⟨unknown, _⟩
  · rw [found] at found'
    cases found'
    exact ⟨value, after⟩
  · rw [found] at unknown
    cases unknown
  · rw [found] at unknown
    cases unknown

theorem realize_repeatable (schema : Schema) (name : String) (store : Store) :
    (schema.realize name).Repeatable store where
  grows := (schema.realize_reaches name store).grows
  again realized later grown := by
    obtain ⟨k, found, rfl⟩ := realize_found realized
    obtain ⟨k', found', same⟩ := grown.find? found
    rw [← same]
    exact realize_reads found'
  fails failed := by
    obtain ⟨-, -, after⟩ := realize_eq_error failed
    rw [after]
    exact ⟨failed, after⟩

/-- An entity that has been asked for once is not made known later. -/
theorem realize_again (grown : ((schema.realize name).run store).store.Grows later) :
    ((schema.realize name).run later).store = later := by
  cases value : ((schema.realize name).run store).value with
  | ok d =>
    obtain ⟨k, found, -⟩ := realize_found value
    obtain ⟨k', found', -⟩ := grown.find? found
    exact (realize_reads found').2
  | error e =>
    obtain ⟨-, undescribed, -⟩ := realize_eq_error value
    rcases schema.realize_cases name later with ⟨_, _, _, after⟩ | ⟨_, _, described, _⟩ |
      ⟨_, _, _, after⟩
    · exact after
    · rw [undescribed] at described
      cases described
    · exact after

/-! ## Roles -/

/-- The owners that a search has tried are not made known by the same search later. -/
theorem searchRole_again (role : String) (splits : List (String × String))
    (faithful : store.Faithful schema) (faithful' : later.Faithful schema)
    (grown : (schema.searchRole role splits store).store.Grows later) :
    (schema.searchRole role splits later).store = later := by
  induction splits generalizing store with
  | nil => rfl
  | cons split others ih =>
    obtain ⟨owner, path⟩ := split
    have tried := schema.realize_reaches owner store
    have rest := (schema.searchRole_madeOf role others ((schema.realize owner).run store).store).reaches
    unfold searchRole at grown ⊢
    rw [Lookup.bind_store, realize_value faithful] at grown
    rw [Lookup.bind_store, realize_value faithful']
    -- both searches take the same way, since both stores are faithful
    cases described : schema.describe? owner with
    | none =>
      simp only [described, Option.elim_none] at grown ⊢
      rw [realize_again (rest.grows.trans grown)]
      exact ih (tried.faithful faithful) grown
    | some d =>
      simp only [described, Option.elim_some] at grown ⊢
      cases declared : d.declaredMember? path with
      | some fact =>
        simp only [declared] at grown ⊢
        exact realize_again grown
      | none =>
        simp only [declared] at grown ⊢
        rw [realize_again (rest.grows.trans grown)]
        exact ih (tried.faithful faithful) grown

theorem describeRole_reads {r : Collection.Role} (described : store.role? role = some r) :
    (schema.describeRole role).Reads store (.ok r) := by
  rcases schema.describeRole_cases role store with
    ⟨_, described', value, after⟩ | ⟨_, undescribed, _⟩ | ⟨_, undescribed, _⟩
  · rw [described] at described'
    cases described'
    exact ⟨value, after⟩
  · rw [described] at undescribed
    cases undescribed
  · rw [described] at undescribed
    cases undescribed

theorem describeRole_reads_error {e : SchemaError} (undescribed : store.role? role = none)
    (found : (schema.searchRole role (Text.ownerPathSplits role) store).value = .error e)
    (still : (schema.searchRole role (Text.ownerPathSplits role) store).store = store) :
    (schema.describeRole role).Reads store (.error e) := by
  rcases schema.describeRole_cases role store with
    ⟨_, described, _⟩ | ⟨_, _, found', _⟩ | ⟨_, _, found', value, after⟩
  · rw [undescribed] at described
    cases described
  · rw [found] at found'
    cases found'
  · rw [found] at found'
    cases found'
    exact ⟨value, after.trans still⟩

theorem describeRole_described {r : Collection.Role}
    (value : ((schema.describeRole role).run store).value = .ok r) :
    ((schema.describeRole role).run store).store.role? role = some r := by
  rcases describeRole_eq_ok value with ⟨described, after⟩ | ⟨undescribed, after⟩
  · rw [after, described]
  · unfold Store.role? at undescribed ⊢
    rw [after]
    simp [Store.addRole, List.lookup_append, schema.searchRole_roles, undescribed]

theorem describeRole_repeatable (faithful : store.Faithful schema) (role : String) :
    (schema.describeRole role).Repeatable store where
  grows := (schema.describeRole_madeOf role store).reaches.grows
  again value _ grown := describeRole_reads (grown.role? (describeRole_described value))
  fails failed := by
    obtain ⟨undescribed, found, after⟩ := describeRole_eq_error failed
    rw [after]
    -- the search is made again, over owners that are all known by now
    have searched := (schema.searchRole_madeOf role (Text.ownerPathSplits role) store).reaches
    have faithful' := searched.faithful faithful
    refine describeRole_reads_error ?_ ?_ (searchRole_again role _ faithful faithful' (.refl _))
    · unfold Store.role? at undescribed ⊢
      rw [schema.searchRole_roles, undescribed]
    · rw [searchRole_value faithful', ← searchRole_value faithful, found]

end Schema

/-! ## Property types -/

namespace Descriptor

variable {store later : Store} {d : Descriptor} {path : String} {type : QueryType}

theorem propertyType_of_memo (held : store.memo? d.name path = some type) :
    (d.propertyType path store).value = some type ∧ (d.propertyType path store).store = store := by
  simp [propertyType, held]

/-- Whoever answers remembers the answer. -/
theorem propertyType_remembers (known : d ∈ store.descriptors)
    (answered : (d.propertyType path store).value = some type) :
    (d.propertyType path store).store.memo? d.name path = some type := by
  rcases propertyType_eq_some answered with ⟨held, after⟩ | ⟨_, _, after⟩ |
    ⟨e, _, _, _, after⟩
  · rw [after, held]
  · rw [after, Store.memo?_remember_self known]
  · have known' : d ∈ (store.remember e.name path type).descriptors := by
      rw [Store.remember_descriptors]
      exact known
    rw [after, Store.memo?_remember_self known']

/-- **An answer is permanent.** -/
theorem propertyType_again (known : d ∈ store.descriptors)
    (answered : (d.propertyType path store).value = some type)
    (grown : (d.propertyType path store).store.Grows later) :
    (d.propertyType path later).value = some type ∧ (d.propertyType path later).store = later :=
  propertyType_of_memo (grown.memo (propertyType_remembers known answered))

end Descriptor

/-! ## Walks -/

namespace Navigation

variable {schema : Schema} {store later : Store} {cursor : Cursor} {segment : Segment}

namespace Cursor

theorem target_repeatable (faithful : store.Faithful schema) (cursor : Cursor) :
    (cursor.target schema).Repeatable store := by
  unfold target
  split
  · refine .bind (.adapt _ (Schema.describeRole_repeatable faithful _)) ?_
    intro _ _
    exact .ok _ _
  · exact .ok _ _

theorem approach_repeatable (schema : Schema) (cursor : Cursor) (target : QueryType)
    (segment : Segment) (store : Store) :
    (cursor.approach schema target segment).Repeatable store := by
  unfold approach
  split
  · refine .bind (.adapt _ (schema.realize_repeatable _ store)) ?_
    intro _ _
    exact .ok _ _
  · split
    · exact .ok _ _
    · split
      · exact .ok _ _
      · exact .throws _ _
  · exact .throws _ _

theorem typeHere_again {type : QueryType} (known : cursor.owner ∈ store.descriptors)
    (answered : (cursor.typeHere store).value = some type)
    (grown : (cursor.typeHere store).store.Grows later) :
    (cursor.typeHere later).value = some type ∧ (cursor.typeHere later).store = later := by
  unfold typeHere at answered grown ⊢
  cases component : cursor.component with
  | some className =>
    rw [component] at answered
    exact ⟨answered, rfl⟩
  | none =>
    rw [component] at answered grown
    exact Descriptor.propertyType_again known answered grown

theorem typeHere_store_of_none (missing : (cursor.typeHere store).value = none) :
    (cursor.typeHere store).store = store := by
  unfold typeHere at missing ⊢
  cases component : cursor.component with
  | some className => rfl
  | none =>
    rw [component] at missing
    exact (Descriptor.propertyType_eq_none missing).2.2

theorem settle_repeatable (schema : Schema) (known : cursor.owner ∈ store.descriptors)
    (segment : Segment) : (cursor.settle segment).Repeatable store := by
  have reached := (settle_madeOf schema known segment).reaches
  rcases cursor.settle_cases segment store with
    ⟨type, answered, value, after⟩ | ⟨missing, value, after⟩
  · refine ⟨reached.grows, ?_, ?_⟩
    · intro next value' later grown
      rw [after] at grown
      obtain ⟨answered', still⟩ := typeHere_again known answered grown
      rcases cursor.settle_cases segment later with
        ⟨_, again, value'', after'⟩ | ⟨missing, _⟩
      · rw [answered'] at again
        cases again
        exact ⟨value''.trans (value.symm.trans value'), after'.trans still⟩
      · rw [answered'] at missing
        cases missing
    · intro e failed
      rw [value] at failed
      cases failed
  · rw [typeHere_store_of_none missing] at after
    refine ⟨reached.grows, ?_, ?_⟩
    · intro next succeeded
      rw [value] at succeeded
      cases succeeded
    · intro e failed
      rw [after]
      exact ⟨failed, after⟩

theorem advance_repeatable (faithful : store.Faithful schema)
    (known : cursor.owner ∈ store.descriptors) (segment : Segment) :
    (cursor.advance schema segment).Repeatable store := by
  by_cases empty : segment.name.isEmpty
  · rw [advance_of_empty empty]
    exact .throws _ _
  · rw [advance_of_named empty]
    refine .bind (target_repeatable faithful cursor) fun target _ => ?_
    have known' := (cursor.target_madeOf schema store).reaches.grows.mem known
    refine .bind (approach_repeatable schema cursor target segment _) fun next approached => ?_
    exact settle_repeatable schema (approach_known known' approached) segment

/-- A walk of any length is repeatable. -/
theorem walk_repeatable (path : List Segment) (faithful : store.Faithful schema)
    (known : cursor.owner ∈ store.descriptors) :
    Attempt.Repeatable (path.foldlM (advance schema) cursor) store := by
  induction path generalizing cursor store with
  | nil => exact .ok _ _
  | cons segment path ih =>
    rw [List.foldlM_cons]
    refine .bind (advance_repeatable faithful known segment) fun next moved => ?_
    have faithful' := (advance_madeOf known segment).reaches.faithful faithful
    exact ih faithful' (advance_known known moved)

end Cursor

theorem resolve_repeatable (faithful : store.Faithful schema) (root : String) (rootSpan : Span)
    (path : List Segment) : (resolve schema root rootSpan path).Repeatable store := by
  refine .bind (.adapt _ (schema.realize_repeatable root store)) fun owner realized => ?_
  have faithful' := (schema.realize_reaches root store).faithful faithful
  refine .bind (Cursor.walk_repeatable path faithful' (diagnosedAt_realize_known realized)) ?_
  intro _ _
  exact .ok _ _

end Navigation

/-! ## Sessions -/

namespace Session

variable {s : Session} {root : String} {rootSpan : Span} {path : List Navigation.Segment}

/-- An open session answers a path by walking it. -/
theorem step_segments (isOpen : s.isOpen) (root : String) (rootSpan : Span)
    (path : List Navigation.Segment) :
    (s.step (.ask (.segments root rootSpan path))).answer =
        .navigated ((Navigation.resolve s.schema root rootSpan path).run s.store).value ∧
      (s.step (.ask (.segments root rootSpan path))).session =
        { s with store := ((Navigation.resolve s.schema root rootSpan path).run s.store).store } := by
  have asked : s.step (.ask (.segments root rootSpan path)) =
      s.look (s.answer (.segments root rootSpan path)) := by
    show s.ask (.segments root rootSpan path) = _
    unfold ask
    rw [isOpen]
    rfl
  rw [asked]
  exact ⟨rfl, rfl⟩

/-- A walk that only reads is answered without any change to the session. -/
theorem step_segments_of_reads {result : Except Diagnostic QueryType} (isOpen : s.isOpen)
    (reads : (Navigation.resolve s.schema root rootSpan path).Reads s.store result) :
    (s.step (.ask (.segments root rootSpan path))).answer = .navigated result ∧
      (s.step (.ask (.segments root rootSpan path))).session = s := by
  obtain ⟨answer, session⟩ := step_segments isOpen root rootSpan path
  rw [reads.1] at answer
  rw [reads.2] at session
  exact ⟨answer, session⟩

/-- A session that navigates is open. -/
theorem isOpen_of_navigated {result : Except Diagnostic QueryType}
    (navigated : (s.step (.ask (.segments root rootSpan path))).answer = .navigated result) :
    s.isOpen := by
  by_contra closed
  have refused : (s.step (.ask (.segments root rootSpan path))).answer = .refused .closed := by
    show (s.ask (.segments root rootSpan path)).answer = _
    unfold ask
    rw [Bool.not_eq_true] at closed
    rw [closed]
    rfl
  rw [navigated] at refused
  cases refused

/-- **Accepted paths stay accepted.** If a path is accepted by a session in any state that it can
be in, then the same path is accepted with the same type after any further requests, as long as
the session is open, and accepting it again changes nothing. If a path is refused, then it is
refused again at once with the same diagnostic, and refusing it again changes nothing. -/
theorem accepted_path_stays (sources : List Source) (settings : Settings)
    (dialect : Function.Dialect) (sink : Sink) (before : List Request) (root : String)
    (rootSpan : Span) (path : List Navigation.Segment) :
    let s := ((start sources settings dialect sink).run before).2
    let ask : Request := .ask (.segments root rootSpan path)
    (∀ type, (s.step ask).answer = .navigated (.ok type) → ∀ requests : List Request,
      let later := ((s.step ask).session.run requests).2
      later.isOpen →
        (later.step ask).answer = .navigated (.ok type) ∧ (later.step ask).session = later) ∧
    (∀ diagnostic, (s.step ask).answer = .navigated (.error diagnostic) →
      let after := (s.step ask).session
      (after.step ask).answer = .navigated (.error diagnostic) ∧
        (after.step ask).session = after) := by
  intro s ask
  have schema : s.schema = (start sources settings dialect sink).schema := run_schema _ before
  have valid : s.store.Valid s.schema := by
    rw [schema]
    exact run_valid (start_valid sources settings dialect sink) before
  have repeatable := Navigation.resolve_repeatable valid.faithful root rootSpan path
  refine ⟨?_, ?_⟩
  · intro type accepted requests later isOpen
    obtain ⟨answer, session⟩ := step_segments (isOpen_of_navigated accepted) root rootSpan path
    rw [accepted] at answer
    have value := (Answer.navigated.inj answer).symm
    have grown : (s.step ask).session.store.Grows later.store := by
      refine run_grows ?_ requests
      rw [s.step_schema ask]
      exact step_valid valid ask
    rw [session] at grown
    have same : later.schema = s.schema := (run_schema _ requests).trans (s.step_schema ask)
    refine step_segments_of_reads isOpen ?_
    rw [same]
    exact repeatable.again value grown
  · intro diagnostic refused after
    have isOpen := isOpen_of_navigated refused
    obtain ⟨answer, session⟩ := step_segments isOpen root rootSpan path
    rw [refused] at answer
    have value := (Answer.navigated.inj answer).symm
    have stillOpen : after.isOpen = s.isOpen := s.ask_isOpen _
    have store : after.store =
        ((Navigation.resolve s.schema root rootSpan path).run s.store).store :=
      congrArg Session.store session
    refine step_segments_of_reads (stillOpen.trans isOpen) ?_
    rw [s.step_schema ask, store]
    exact repeatable.fails value

/-- A path through a collection and an association to a property of a subclass stays accepted
while other entities and roles become known. -/
theorem salary_path_stays :
    let s := ((start [.classes .company] {} .standard .collecting).run
      [.entity "Employee" .describe]).2
    let path : List Navigation.Segment :=
      [⟨"orders", ⟨2, 8⟩⟩, ⟨"customer", ⟨9, 17⟩⟩, ⟨"salary", ⟨18, 24⟩⟩]
    let ask : Request := .ask (.segments "Person" ⟨0, 1⟩ path)
    let later := ((s.step ask).session.run
      [.entity "com.acme.Employee" (.propertyType "manager"), .ask (.role "Person.phones")]).2
    (s.step ask).answer = .navigated (.ok (.scalar .bigDecimal)) ∧
      (later.step ask).answer = .navigated (.ok (.scalar .bigDecimal)) ∧
      (later.step ask).session = later := by
  intro s path ask later
  have walked : ((Navigation.resolve s.schema "Person" ⟨0, 1⟩ path).run s.store).value.toOption =
      some (.scalar .bigDecimal) := by decide +kernel
  have accepted : (s.step ask).answer = .navigated (.ok (.scalar .bigDecimal)) := by
    rw [(step_segments (by decide +kernel) _ _ _).1]
    cases value : ((Navigation.resolve s.schema "Person" ⟨0, 1⟩ path).run s.store).value with
    | error _ =>
      rw [value] at walked
      cases walked
    | ok type =>
      rw [value] at walked
      cases walked
      rfl
  have isOpen : later.isOpen := by decide +kernel
  exact ⟨accepted, (accepted_path_stays _ _ _ _ _ _ _ _).1 _ accepted _ isOpen⟩

end Session

end EntityQuery
