import EntityQuery.Proofs.Agreement
import EntityQuery.Proofs.FirstFailure

/-!
# Walks compose at entities

A walk carries its owner, the component class that paths are relative to, the path so far, the type
it has come to and the span of the last segment. At an entity all but the last two are set anew by
the next segment, and of the type only the name of the entity counts. So a walk that has come to an
entity goes on as a walk that starts from there, with the last segment in the place of the alias:
the result is the same, diagnostics and spans included, and so is the store that is left behind
(`Session.navigation_composes`). At a collection of entities the same holds once the role of the
collection has been looked up.

What is told on the way is not the same. The walk that starts anew looks its root up twice, and the
second time finds it.
-/

namespace EntityQuery

/-! ## Attempts that end alike -/

namespace Attempt

variable {α β ε : Type} {here there : Store}

/-- **The two attempts end alike**, each on its store: they give the same result and leave the same
store behind. -/
def EndsLike (x : Attempt ε α) (here : Store) (y : Attempt ε α) (there : Store) : Prop :=
  (x.run here).value = (y.run there).value ∧ (x.run here).store = (y.run there).store

namespace EndsLike

theorem of_eq {x y : Attempt ε α} (same : x = y) (store : Store) : x.EndsLike store y store := by
  subst same
  exact ⟨rfl, rfl⟩

theorem symm {x y : Attempt ε α} (alike : x.EndsLike here y there) : y.EndsLike there x here :=
  ⟨alike.1.symm, alike.2.symm⟩

theorem trans {x y z : Attempt ε α} {store : Store} (first : x.EndsLike here y there)
    (second : y.EndsLike there z store) : x.EndsLike here z store :=
  ⟨first.1.trans second.1, first.2.trans second.2⟩

/-- What ends alike goes on alike. -/
theorem bind {x y : Attempt ε α} (f : α → Attempt ε β) (alike : x.EndsLike here y there) :
    (x >>= f).EndsLike here (y >>= f) there := by
  cases value : (y.run there).value with
  | ok a =>
    obtain ⟨left, leftAfter⟩ := run_bind_ok f (alike.1.trans value)
    obtain ⟨right, rightAfter⟩ := run_bind_ok f value
    rw [alike.2] at left leftAfter
    exact ⟨left.trans right.symm, leftAfter.trans rightAfter.symm⟩
  | error e =>
    obtain ⟨left, leftAfter⟩ := run_bind_error f (alike.1.trans value)
    obtain ⟨right, rightAfter⟩ := run_bind_error f value
    exact ⟨left.trans right.symm, leftAfter.trans (alike.2.trans rightAfter.symm)⟩

/-- A sequence whose first part succeeds ends like its second part. -/
theorem of_ok {x : Attempt ε α} {a : α} (f : α → Attempt ε β)
    (value : (x.run here).value = .ok a) :
    (x >>= f).EndsLike here (f a) (x.run here).store :=
  run_bind_ok f value

/-- A part that is only read may stand once or twice. -/
theorem read_twice {x : Attempt ε α} {f g : α → Attempt ε β} (repeatable : x.Repeatable here)
    (same : ∀ a, (x.run here).value = .ok a → g a = x >>= f) :
    (x >>= f).EndsLike here (x >>= g) here := by
  cases value : (x.run here).value with
  | ok a =>
    obtain ⟨again, still⟩ := repeatable.again value (.refl _)
    have second := of_ok f again
    rw [still] at second
    have onward := of_ok g value
    rw [same a value] at onward
    exact ((of_ok f value).trans second.symm).trans onward.symm
  | error e =>
    obtain ⟨left, leftAfter⟩ := run_bind_error f value
    obtain ⟨right, rightAfter⟩ := run_bind_error g value
    exact ⟨left.trans right.symm, leftAfter.trans rightAfter.symm⟩

end EndsLike

end Attempt

namespace Navigation

variable {schema : Schema} {store : Store} {cursor other : Cursor} {segment : Segment}
  {root name : String} {rootSpan : Span} {path before after : List Segment}

/-! ## Steps from an entity -/

namespace Cursor

/-- What a segment is read on is the owner, the component class and the path. -/
theorem settle_congr (owner : cursor.owner = other.owner)
    (component : cursor.component = other.component)
    (relative : cursor.relative = other.relative) (segment : Segment) :
    cursor.settle segment = other.settle segment := by
  cases cursor
  cases other
  cases owner
  cases component
  cases relative
  rfl

/-- Of where a walk has come to, only the entity and the last span count for the next step. -/
theorem advance_of_entity_eq (reference : cursor.current = .entity name)
    (reference' : other.current = .entity name) (previous : cursor.previous = other.previous)
    (named : ¬ segment.name.isEmpty) :
    cursor.advance schema segment = other.advance schema segment := by
  rw [advance_of_entity reference named, advance_of_entity reference' named, previous]
  refine congrArg _ (funext fun owner => ?_)
  exact settle_congr rfl rfl rfl segment

/-- A step from an entity ends like a walk of one segment from it. -/
theorem advance_endsLike (reference : cursor.current = .entity name)
    (named : ¬ segment.name.isEmpty) :
    (cursor.advance schema segment).EndsLike store
      (do
        let owner ← diagnosedAt cursor.previous (schema.realize name)
        (start owner cursor.previous).advance schema segment) store := by
  rw [advance_of_entity reference named]
  refine .read_twice (.adapt _ (schema.realize_repeatable name store)) fun owner realized => ?_
  have bears : owner.name = name := (Schema.realize_known (Attempt.ok_of_adapt realized)).2
  have begins : (start owner cursor.previous).current = .entity name :=
    congrArg QueryType.entity bears
  rw [advance_of_entity_eq begins reference rfl named, advance_of_entity reference named]

/-- A step from a collection of entities ends like a step from the entity, once the role has been
described. -/
theorem advance_endsLike_element {role : String} {kind : Collection.Kind} {element : QueryType}
    {key : Option QueryType} (collected : cursor.current = .collection role kind element key)
    {r : Collection.Role} (described : ((schema.describeRole role).run store).value = .ok r)
    (elements : r.elementType = .entity name) (named : ¬ segment.name.isEmpty) :
    (cursor.advance schema segment).EndsLike store
      ({ cursor with current := .entity name }.advance schema segment)
      ((schema.describeRole role).run store).store := by
  have diagnosed : ((diagnosedAt cursor.previous (schema.describeRole role)).run store).value =
      .ok r := by
    unfold diagnosedAt
    rw [Attempt.adapt_value, described]
    rfl
  rw [advance_of_collection collected named]
  refine (Attempt.EndsLike.of_ok _ diagnosed).trans (.of_eq ?_ _)
  rw [elements, advance_of_entity rfl named]
  unfold approach
  dsimp only
  rw [bind_assoc]
  refine congrArg _ (funext fun owner => ?_)
  rw [pure_bind]
  exact settle_congr rfl rfl rfl segment

/-- **A walk goes on from an entity as if it started there.** -/
theorem foldlM_endsLike (reference : cursor.current = .entity name)
    (named : ¬ segment.name.isEmpty) (path : List Segment) :
    Attempt.EndsLike ((segment :: path).foldlM (advance schema) cursor) store
      (walk schema name cursor.previous (segment :: path)) store := by
  unfold walk
  simp only [List.foldlM_cons]
  rw [← bind_assoc]
  exact (advance_endsLike reference named).bind _

/-- A walk goes on from a collection of entities as if it started from the entity, once the role
has been described. -/
theorem foldlM_endsLike_element {role : String} {kind : Collection.Kind} {element : QueryType}
    {key : Option QueryType} (collected : cursor.current = .collection role kind element key)
    {r : Collection.Role} (described : ((schema.describeRole role).run store).value = .ok r)
    (elements : r.elementType = .entity name) (named : ¬ segment.name.isEmpty)
    (path : List Segment) :
    Attempt.EndsLike ((segment :: path).foldlM (advance schema) cursor) store
      (walk schema name cursor.previous (segment :: path))
      ((schema.describeRole role).run store).store := by
  let entity : Cursor := { cursor with current := .entity name }
  have onward : Attempt.EndsLike ((segment :: path).foldlM (advance schema) entity)
      ((schema.describeRole role).run store).store
      (walk schema name cursor.previous (segment :: path))
      ((schema.describeRole role).run store).store := foldlM_endsLike rfl named path
  refine Attempt.EndsLike.trans ?_ onward
  simp only [List.foldlM_cons]
  exact (advance_endsLike_element collected described elements named).bind _

end Cursor

/-! ## Paths in two parts -/

/-- The last segment of a path is where its walk stands. -/
theorem walk_previous {last : Segment}
    (walked : ((walk schema root rootSpan (before ++ [last])).run store).value = .ok cursor) :
    cursor.previous = last.span := by
  rw [walk_append] at walked
  obtain ⟨near, _, moved, _⟩ := Attempt.bind_ok walked
  exact Cursor.advance_previous moved

/-- A path is resolved like its second part, if from where the first ends the walk goes on like a
walk that starts there. -/
theorem resolve_endsLike {there : Store}
    (walked : ((walk schema root rootSpan before).run store).value = .ok cursor)
    (onward : Attempt.EndsLike (after.foldlM (Cursor.advance schema) cursor)
      ((walk schema root rootSpan before).run store).store
      (walk schema name cursor.previous after) there) :
    (resolve schema root rootSpan (before ++ after)).EndsLike store
      (resolve schema name cursor.previous after) there := by
  rw [resolve_eq_walk, resolve_eq_walk, walk_append_path]
  exact ((Attempt.EndsLike.of_ok _ walked).trans onward).bind _

/-- What a path resolves to is where its walk ends. -/
theorem resolve_eq_ok {type : QueryType}
    (value : ((resolve schema root rootSpan path).run store).value = .ok type) :
    ∃ cursor, ((walk schema root rootSpan path).run store).value = .ok cursor ∧
      cursor.current = type ∧
      ((resolve schema root rootSpan path).run store).store =
        ((walk schema root rootSpan path).run store).store := by
  rw [resolve_eq_walk] at value ⊢
  obtain ⟨cursor, walked, same, after⟩ := Attempt.bind_ok value
  exact ⟨cursor, walked, Except.ok.inj same, after⟩

end Navigation

/-! ## Sessions -/

namespace Session

variable {s t : Session}

/-- What is behind a path that a session has accepted. -/
theorem segments_accepted {root : String} {rootSpan : Span} {path : List Navigation.Segment}
    {type : QueryType}
    (accepted : (s.step (.ask (.segments root rootSpan path))).answer = .navigated (.ok type)) :
    s.isOpen ∧ ∃ cursor,
      ((Navigation.walk s.schema root rootSpan path).run s.store).value = .ok cursor ∧
      cursor.current = type ∧
      (s.step (.ask (.segments root rootSpan path))).session =
        { s with store := ((Navigation.walk s.schema root rootSpan path).run s.store).store } := by
  have isOpen := isOpen_of_navigated accepted
  obtain ⟨answer, session⟩ := step_segments isOpen root rootSpan path
  obtain ⟨cursor, walked, here, after⟩ :=
    Navigation.resolve_eq_ok (Answer.navigated.inj (answer.symm.trans accepted))
  rw [after] at session
  exact ⟨isOpen, cursor, walked, here, session⟩

/-- Sessions that differ in their stores at most answer alike where their walks end alike. -/
theorem step_segments_endsLike (isOpen : s.isOpen) (isOpen' : t.isOpen)
    (differ : t = { s with store := t.store }) {root root' : String} {span span' : Span}
    {path path' : List Navigation.Segment}
    (alike : (Navigation.resolve s.schema root span path).EndsLike s.store
      (Navigation.resolve s.schema root' span' path') t.store) :
    (s.step (.ask (.segments root span path))).answer =
        (t.step (.ask (.segments root' span' path'))).answer ∧
      (s.step (.ask (.segments root span path))).session =
        (t.step (.ask (.segments root' span' path'))).session := by
  obtain ⟨answer, session⟩ := step_segments isOpen root span path
  obtain ⟨answer', session'⟩ := step_segments isOpen' root' span' path'
  have schema : t.schema = s.schema := by rw [differ]
  rw [schema] at answer' session'
  refine ⟨?_, ?_⟩
  · rw [answer, answer', alike.1]
  · rw [session, session', alike.2, differ]

/-- **Walks compose at entities.** Let a session, in whatever state, accept a path that ends with
some segment, and let the segment after it be named. If the path leads to an entity, then going on
from it is the same as a walk from that entity, with the last segment in the place of the alias, by
the session as it then is: the answers are the same, and so are the sessions afterwards. If it leads
to a collection whose role is described with an entity as its elements, then the same holds for the
session that has described the role. -/
theorem navigation_composes (s : Session) (root : String) (rootSpan : Span)
    (front : List Navigation.Segment) (last next : Navigation.Segment)
    (rest : List Navigation.Segment) (named : next.name ≠ "") :
    let walked := s.step (.ask (.segments root rootSpan (front ++ [last])))
    let whole := s.step (.ask (.segments root rootSpan ((front ++ [last]) ++ next :: rest)))
    (∀ entity, walked.answer = .navigated (.ok (.entity entity)) →
      let onward := walked.session.step (.ask (.segments entity last.span (next :: rest)))
      whole.answer = onward.answer ∧ whole.session = onward.session) ∧
    (∀ role kind element key, walked.answer = .navigated (.ok (.collection role kind element key)) →
      let described := walked.session.step (.ask (.role role))
      ∀ r entity, described.answer = .role r → r.elementType = .entity entity →
        let onward := described.session.step (.ask (.segments entity last.span (next :: rest)))
        whole.answer = onward.answer ∧ whole.session = onward.session) := by
  intro walked whole
  have filled : ¬ next.name.isEmpty := by simpa using named
  have stays : walked.session.isOpen = s.isOpen := s.ask_isOpen _
  refine ⟨?_, ?_⟩
  · intro entity accepted onward
    obtain ⟨isOpen, cursor, ended, here, session⟩ := segments_accepted accepted
    have session : walked.session = _ := session
    refine step_segments_endsLike isOpen (stays.trans isOpen) (by rw [session]) ?_
    rw [session, ← Navigation.walk_previous ended]
    exact Navigation.resolve_endsLike ended (Navigation.Cursor.foldlM_endsLike here filled rest)
  · intro role kind element key accepted described r entity answered elements onward
    obtain ⟨isOpen, cursor, ended, here, session⟩ := segments_accepted accepted
    have session : walked.session = _ := session
    obtain ⟨answer, session'⟩ := step_role (stays.trans isOpen) role
    have session' : described.session = _ := session'
    have value := ok_of_report (fun _ => Answer.role.inj) nofun (answer.symm.trans answered)
    rw [session] at session' value
    have isOpen' : described.session.isOpen :=
      (walked.session.ask_isOpen _).trans (stays.trans isOpen)
    refine step_segments_endsLike isOpen isOpen' (by rw [session']) ?_
    rw [session', ← Navigation.walk_previous ended]
    exact Navigation.resolve_endsLike ended
      (Navigation.Cursor.foldlM_endsLike_element here value elements filled rest)

/-- The customer of an order is a person, and lacks what persons lack. The coins in the till of a
shop are money, and have what money has. -/
theorem customer_and_coins :
    let s := start [.mapping trade] {} .standard .collecting
    let customer : Navigation.Segment := ⟨"customer", ⟨2, 10⟩⟩
    let walked := s.step (.ask (.segments "Order" ⟨0, 1⟩ ([] ++ [customer])))
    let planet : Navigation.Segment := ⟨"planet", ⟨11, 17⟩⟩
    let whole := s.step (.ask (.segments "Order" ⟨0, 1⟩ (([] ++ [customer]) ++ [planet])))
    let onward := walked.session.step (.ask (.segments "Person" ⟨2, 10⟩ [planet]))
    let s' := start [.mapping shop] {} .standard .collecting
    let till : Navigation.Segment := ⟨"till", ⟨2, 6⟩⟩
    let coins : Navigation.Segment := ⟨"coins", ⟨7, 12⟩⟩
    let walked' := s'.step (.ask (.segments "Shop" ⟨0, 1⟩ ([till] ++ [coins])))
    let described := walked'.session.step (.ask (.role "Shop.till.coins"))
    let value : Navigation.Segment := ⟨"value", ⟨13, 18⟩⟩
    let whole' := s'.step (.ask (.segments "Shop" ⟨0, 1⟩ (([till] ++ [coins]) ++ [value])))
    let onward' := described.session.step (.ask (.segments "Money" ⟨7, 12⟩ [value]))
    (walked.answer = .navigated (.ok (.entity "Person")) ∧
      onward.answer = .navigated (.error
        ((SchemaError.noSuchProperty "Person" "planet").diagnose ⟨11, 17⟩)) ∧
      whole.answer = onward.answer ∧ whole.session = onward.session) ∧
    (walked'.answer = .navigated (.ok (.collection "Shop.till.coins" .map (.entity "Money")
        (some (.scalar .string)))) ∧
      described.answer =
        .role ⟨"Shop.till.coins", "Shop", .map, .association "Money", some (.basic "String")⟩ ∧
      onward'.answer = .navigated (.ok (.scalar .integer)) ∧
      whole'.answer = onward'.answer ∧ whole'.session = onward'.session) := by
  intro s customer walked planet whole onward s' till coins walked' described value whole' onward'
  have reached : walked.answer = .navigated (.ok (.entity "Person")) :=
    answer_segments (by decide +kernel) (by decide +kernel)
  have missing : onward.answer = .navigated (.error
      ((SchemaError.noSuchProperty "Person" "planet").diagnose ⟨11, 17⟩)) :=
    answer_segments (by decide +kernel) (by decide +kernel)
  have collected : walked'.answer = .navigated (.ok (.collection "Shop.till.coins" .map
      (.entity "Money") (some (.scalar .string)))) :=
    answer_segments (by decide +kernel) (by decide +kernel)
  have sound : walked'.session.Sound := (start_sound [.mapping shop] {} .standard .collecting).run
    [.ask (.segments "Shop" ⟨0, 1⟩ ([till] ++ [coins]))]
  have schema : walked'.session.schema = ⟨[.mapping shop], ⟨"id", .scalar .integer⟩⟩ :=
    s'.step_schema _
  have found : described.answer =
      .role ⟨"Shop.till.coins", "Shop", .map, .association "Money", some (.basic "String")⟩ := by
    have kind : Collection.Kind.ofShape "Map" = .map := by decide +kernel
    have answer := sound.answer_role (by decide +kernel) "Shop.till.coins"
    rw [schema, shop_decides_coins.decideRole_eq] at answer
    rw [← kind]
    exact answer
  have worth : onward'.answer = .navigated (.ok (.scalar .integer)) :=
    answer_segments (by decide +kernel) (by decide +kernel)
  have first := (navigation_composes s "Order" ⟨0, 1⟩ [] customer planet [] (by decide)).1
    "Person" reached
  have second := (navigation_composes s' "Shop" ⟨0, 1⟩ [till] coins value [] (by decide)).2
    _ _ _ _ collected _ "Money" found rfl
  exact ⟨⟨reached, missing, first⟩, collected, found, worth, second⟩

end Session

end EntityQuery
