import EntityQuery.Proofs.DeclaredPaths

/-!
# Paths to members

An entity follows a dotted path to one of its members in one go: it finds the first segment among
its members, declared or inherited, and every other one in an embedded component. A walk comes to
the same place segment by segment. It asks for each beginning of the path in turn, and goes on with
a longer path on the same entity because each of them is an embedded component.

So a session accepts every path to a member, with the type that the member has under the path, in
all its states (`Session.member_path_accepted`). That the beginnings are components is a matter of
declarations alone; that the session sees them as such, whatever it remembers and whichever
subclasses it knows, is what holds of all walks by declarations. Paths with empty segments are left
out, since they are never walked, and so is the identifier of an association, for which a walk asks
the associated entity.
-/

namespace EntityQuery.Navigation

variable {schema : Schema} {d : Descriptor} {cursor : Cursor} {segment : Segment}
  {path : List Segment} {text front : String} {fact : MemberFact} {type : QueryType}

/-- What a member that is still to be reached says about the beginning of the path: this is a
member too, and unless the path ends with it, it is an embedded component. -/
theorem Remains.member (remains : Remains text front path)
    (member : d.declaredMember? text = some fact) :
    ∃ here, d.declaredMember? front = some here ∧
      (path ≠ [] → ∃ component, here = .embedded component) := by
  rcases remains with ⟨rfl, rfl⟩ | ⟨rest, rfl, -⟩
  · exact ⟨fact, member, fun more => absurd rfl more⟩
  · obtain ⟨component, embedded⟩ := Descriptor.component_before member
    exact ⟨_, embedded, fun _ => ⟨component, rfl⟩⟩

/-! ## Walks by declarations on one entity -/

namespace Cursor

/-- The first segment is read on the entity that the walk starts from. -/
theorem declaredAdvance_start (described : schema.describe? d.name = some d) (span : Span)
    (named : ¬ segment.name.isEmpty) (declared : d.declaredType? segment.name = some type) :
    (start d span).declaredAdvance schema segment =
      .ok ⟨d, none, segment.name, type, segment.span⟩ := by
  have owner : describeAt schema span d.name = .ok d := by
    unfold describeAt
    rw [described]
  unfold declaredAdvance
  rw [if_neg named]
  show (do
    let next ← (start d span).declaredApproach schema (.entity d.name) segment
    next.declaredSettle segment) = _
  unfold declaredApproach
  dsimp only [start]
  rw [owner]
  show declaredSettle _ segment = _
  unfold declaredSettle declaredHere?
  dsimp only
  rw [declared]

/-- From an embedded component the walk goes on with a longer path on the same entity. -/
theorem declaredAdvance_of_embedded (schema : Schema) {component : String}
    (embedded : cursor.current = .embedded component) (onOwner : cursor.component = none)
    (started : cursor.relative.isEmpty = false) (named : ¬ segment.name.isEmpty)
    (declared : cursor.owner.declaredType? (Descriptor.roleOf cursor.relative segment.name) =
      some type) :
    cursor.declaredAdvance schema segment = .ok
      { cursor with
        relative := Descriptor.roleOf cursor.relative segment.name
        current := type
        previous := segment.span } := by
  have single : cursor.current.isCollection = false := by
    rw [embedded]
    rfl
  unfold declaredAdvance
  rw [if_neg named]
  unfold declaredTarget
  rw [embedded]
  show (do
    let next ← cursor.declaredApproach schema (.embedded component) segment
    next.declaredSettle segment) = _
  unfold declaredApproach
  dsimp only
  rw [single, started, if_neg Bool.false_ne_true, Bool.not_false, if_pos rfl]
  show declaredSettle _ segment = _
  unfold declaredSettle declaredHere?
  dsimp only
  rw [onOwner]
  dsimp only
  rw [show cursor.relative ++ "." ++ segment.name =
    Descriptor.roleOf cursor.relative segment.name from rfl, declared]

/-- **A walk along a path to a member stays with the entity** and comes to the member. -/
theorem foldlM_declaredAdvance (schema : Schema) (cursor : Cursor)
    (onOwner : cursor.component = none) (started : cursor.relative.isEmpty = false)
    (here : cursor.owner.declaredType? cursor.relative = some cursor.current)
    (remains : Remains text cursor.relative path) (filled : ∀ segment ∈ path, segment.name ≠ "")
    (member : cursor.owner.declaredMember? text = some fact) :
    ∃ last, path.foldlM (declaredAdvance schema) cursor = .ok last ∧
      last.current = fact.typeAt (Descriptor.roleOf cursor.owner.name text) := by
  -- each beginning of the path but the last is an embedded component of the entity
  induction path generalizing cursor with
  | nil =>
    refine ⟨cursor, rfl, ?_⟩
    rw [← remains.eq_of_nil, Descriptor.declaredType?_of_member member] at here
    exact (Option.some.inj here).symm
  | cons segment path ih =>
    obtain ⟨_, inside, embedded⟩ := remains.member member
    obtain ⟨component, rfl⟩ := embedded (List.cons_ne_nil _ _)
    have current : cursor.current = .embedded component := by
      rw [Descriptor.declaredType?_of_member inside] at here
      exact (Option.some.inj here).symm
    obtain ⟨next, declared, -⟩ := remains.of_cons.member member
    have typed := Descriptor.declaredType?_of_member declared
    have named : ¬ segment.name.isEmpty := by simpa using filled segment List.mem_cons_self
    have longer : (Descriptor.roleOf cursor.relative segment.name).isEmpty = false := by
      simp [Descriptor.roleOf]
    rw [List.foldlM_cons,
      declaredAdvance_of_embedded schema current onOwner started named typed]
    exact ih _ onOwner longer typed remains.of_cons
      (fun segment mem => filled segment (List.mem_cons_of_mem _ mem)) member

end Cursor

/-- **The declarations give a path to a member the type of the member.** -/
theorem declaredResolve_of_member {entity : String} (rootSpan : Span)
    (described : schema.describe? entity = some d) (member : d.declaredMember? text = some fact)
    (named : path.map (·.name) = Text.dotted text) (filled : ∀ segment ∈ path, segment.name ≠ "") :
    declaredResolve schema entity rootSpan path =
      .ok (fact.typeAt (Descriptor.roleOf entity text)) := by
  obtain rfl := Schema.name_of_describe? described
  obtain ⟨segment, path, rfl⟩ : ∃ segment others, path = segment :: others := by
    refine List.exists_cons_of_ne_nil ?_
    rintro rfl
    exact Text.dotted_ne_nil text named.symm
  have remains := Remains.of_map named
  obtain ⟨first, declared, -⟩ := remains.member member
  have typed := Descriptor.declaredType?_of_member declared
  have start : ¬ segment.name.isEmpty := by simpa using filled segment List.mem_cons_self
  let near : Cursor :=
    ⟨d, none, segment.name, first.typeAt (Descriptor.roleOf d.name segment.name), segment.span⟩
  have moved : (Cursor.start d rootSpan).declaredAdvance schema segment = .ok near :=
    Cursor.declaredAdvance_start described rootSpan start typed
  obtain ⟨last, walked, ended⟩ := Cursor.foldlM_declaredAdvance schema near rfl
    (Bool.eq_false_iff.mpr start) typed remains
    (fun segment mem => filled segment (List.mem_cons_of_mem _ mem)) member
  unfold declaredResolve describeAt
  rw [described]
  show (do return (← (segment :: path).foldlM (Cursor.declaredAdvance schema)
    (Cursor.start d rootSpan)).current) = _
  rw [List.foldlM_cons, moved]
  show (do return (← path.foldlM (Cursor.declaredAdvance schema) near).current) = _
  rw [walked]
  exact congrArg Except.ok ended

end EntityQuery.Navigation

namespace EntityQuery.Session

/-- **Paths to members are accepted.** Take an open session in any state that it can be in, an
entity that some source recognises, and a dotted path without empty segments that the entity follows
to one of its members, declared or inherited, through embedded components. However the path is laid
out in the query, walking it from the entity gives the type of the member under the role of the
path, and this is also what the entity answers for the path. -/
theorem member_path_accepted (sources : List Source) (settings : Settings)
    (dialect : Function.Dialect) (sink : Sink) (requests : List Request)
    (isOpen : ((start sources settings dialect sink).run requests).2.isOpen) :
    let schema : Schema := ⟨sources, settings.identifier⟩
    let s := ((start sources settings dialect sink).run requests).2
    ∀ (entity path : String) (d : Descriptor) (fact : MemberFact),
      schema.describe? entity = some d → d.declaredMember? path = some fact →
      (∀ name ∈ Text.dotted path, name ≠ "") →
      let type := fact.typeAt (Descriptor.roleOf entity path)
      (∀ (rootSpan : Span) (segments : List Navigation.Segment),
        segments.map (·.name) = Text.dotted path →
        (s.step (.ask (.segments entity rootSpan segments))).answer = .navigated (.ok type)) ∧
      (s.step (.entity entity (.propertyType path))).answer = .optionalType (some type) := by
  intro schema s entity path d fact described member filled type
  have sound : s.Sound := (start_sound sources settings dialect sink).run requests
  have same : s.schema = schema := run_schema _ requests
  rw [← same] at described
  refine ⟨?_, ?_⟩
  · intro rootSpan segments named
    have walkable : ∀ segment ∈ segments, segment.name ≠ "" := by
      intro segment mem
      exact filled _ (named ▸ List.mem_map_of_mem mem)
    have declared := Navigation.declaredResolve_of_member rootSpan described member named walkable
    rcases Navigation.resolve_bearsOut ⟨sound.valid, sound.traced, sound.decided⟩ entity rootSpan
      segments with value | ⟨_, failed, _⟩
    · exact answer_segments isOpen (value.trans declared)
    · cases failed.symm.trans declared
  · have realized : ((s.schema.realize entity).run s.store).value = .ok d := by
      rw [Schema.realize_value sound.valid.faithful, described]
      rfl
    have reaches := s.schema.realize_reaches entity s.store
    have named : d.name = entity := Schema.name_of_describe? described
    have declared := Descriptor.declaredType?_of_member member
    rw [step_propertyType isOpen realized, Descriptor.propertyType_of_declared
      (reaches.traced sound.valid sound.traced) (reaches.valid sound.valid)
      (Schema.realize_known realized).1 declared, named]

/-- The coins in the till of a shop are reached through the till, also when the entity that bears
the name of the till is known. -/
theorem coins_accepted :
    let schema : Schema := ⟨[.mapping shop], ⟨"id", .scalar .integer⟩⟩
    let s := ((start [.mapping shop] {} .standard .collecting).run
      [.entity "Shop.till" .describe, .ask (.role "Shop.till.coins")]).2
    let d : Descriptor := ⟨"Shop", .mapped shop, ⟨"id", .scalar .integer⟩⟩
    let segments : List Navigation.Segment := [⟨"till", ⟨2, 6⟩⟩, ⟨"coins", ⟨7, 12⟩⟩]
    let type : QueryType :=
      .collection "Shop.till.coins" .map (.entity "Money") (some (.scalar .string))
    s.isOpen ∧ schema.describe? "Shop" = some d ∧
      d.declaredMember? "till.coins" =
        some (.collection "Map" (.association "Money") (some (.basic "String"))) ∧
      (∀ name ∈ Text.dotted "till.coins", name ≠ "") ∧
      segments.map (·.name) = Text.dotted "till.coins" ∧
      (s.step (.ask (.segments "Shop" ⟨0, 1⟩ segments))).answer = .navigated (.ok type) ∧
      (s.step (.entity "Shop" (.propertyType "till.coins"))).answer =
        .optionalType (some type) := by
  intro schema s d segments type
  have isOpen : s.isOpen := by decide +kernel
  have described : schema.describe? "Shop" = some d := rfl
  have member : d.declaredMember? "till.coins" =
      some (.collection "Map" (.association "Money") (some (.basic "String"))) := rfl
  have filled : ∀ name ∈ Text.dotted "till.coins", name ≠ "" := by decide +kernel
  have named : segments.map (·.name) = Text.dotted "till.coins" := by decide +kernel
  have typed : (MemberFact.collection "Map" (.association "Money") (some (.basic "String"))).typeAt
      (Descriptor.roleOf "Shop" "till.coins") = type := by decide +kernel
  obtain ⟨walked, asked⟩ := member_path_accepted [.mapping shop] {} .standard .collecting
    [.entity "Shop.till" .describe, .ask (.role "Shop.till.coins")] isOpen "Shop" "till.coins" d _
    described member filled
  have navigated := walked ⟨0, 1⟩ segments named
  rw [typed] at navigated asked
  exact ⟨isOpen, described, member, filled, named, navigated, asked⟩

end EntityQuery.Session
