import EntityQuery.Proofs.Elements
import EntityQuery.Proofs.Fallback

/-!
# Asking an entity for a path, and walking it

The type at a dotted path can be had in two ways. An entity can be asked for the whole path: it
follows the path into its embedded components, reads the identifier of an associated entity off its
own settings, and else leaves the question to its subclasses. Or the path is walked: each beginning
of it is asked for in turn, and a reference to an entity leads on to that entity.

As long as the walk finds embedded components, it stays with the entity and ends with asking it for
the whole path, so the two agree. They part where the walk leaves the entity
(`Session.path_agrees`). If the entity itself has the path, this is at the identifier of an
association: the walk asks the associated entity for it. If it has not, a subclass sees a component
where the entity answers with something else. Both happen (`Session.path_disagrees`).
-/

namespace EntityQuery

/-! ## Dotted texts -/

namespace Text

theorem dotted_ne_nil (text : String) : dotted text ≠ [] := by
  unfold dotted
  rw [Ne, List.map_eq_nil_iff]
  exact List.splitOn_ne_nil '.' _

/-- The segments of a text and of what is joined to it by a dot. -/
theorem dotted_roleOf (text rest : String) :
    dotted (Descriptor.roleOf text rest) = dotted text ++ dotted rest := by
  have joined : (Descriptor.roleOf text rest).toList = text.toList ++ '.' :: rest.toList := by
    simp [Descriptor.roleOf]
  unfold dotted
  rw [joined, List.splitOn_append_cons_self, List.map_append]

/-- A text without dots is its only segment. -/
theorem dotted_of_plain {text : String} (plain : '.' ∉ text.toList) : dotted text = [text] := by
  unfold dotted
  rw [List.splitOn_eq_singleton plain, List.map_singleton, String.ofList_toList]

/-- A text is cut at its first dot. -/
theorem exists_roleOf_of_mem {text : String} (cut : '.' ∈ text.toList) :
    ∃ first rest, text = Descriptor.roleOf first rest ∧ dotted first = [first] := by
  obtain ⟨first, rest, eq, plain⟩ := List.eq_append_cons_of_mem cut
  refine ⟨.ofList first, .ofList rest, ?_, dotted_of_plain (by simpa using plain)⟩
  rw [← String.toList_inj, eq]
  simp [Descriptor.roleOf]

/-- A text is cut at its last dot. -/
theorem exists_roleOf_of_mem_last {text : String} (cut : '.' ∈ text.toList) :
    ∃ front last, text = Descriptor.roleOf front last ∧ dotted last = [last] := by
  obtain ⟨last, front, eq, plain⟩ := List.eq_append_cons_of_mem (List.mem_reverse.mpr cut)
  refine ⟨.ofList front.reverse, .ofList last.reverse, ?_, dotted_of_plain (by simpa using plain)⟩
  rw [← String.toList_inj, ← List.reverse_inj, eq]
  simp [Descriptor.roleOf]

/-- The first segment of a text is all of it, or is joined by a dot to a text that has the other
segments. -/
theorem dotted_eq_cons {text first : String} {others : List String}
    (eq : dotted text = first :: others) :
    (others = [] ∧ text = first) ∨
      ∃ rest, text = Descriptor.roleOf first rest ∧ dotted rest = others := by
  by_cases cut : '.' ∈ text.toList
  · obtain ⟨start, rest, rfl, single⟩ := exists_roleOf_of_mem cut
    rw [dotted_roleOf, single, List.singleton_append] at eq
    obtain ⟨rfl, rfl⟩ := List.cons.inj eq
    exact .inr ⟨rest, rfl, rfl⟩
  · rw [dotted_of_plain cut] at eq
    obtain ⟨rfl, rfl⟩ := List.cons.inj eq
    exact .inl ⟨rfl, rfl⟩

end Text

/-! ## What a descriptor has on the way to a path -/

namespace Descriptor

variable {d : Descriptor} {fact : MemberFact} {path front rest : String} {target : Target}

theorem roleOf_assoc (a b c : String) : roleOf (roleOf a b) c = roleOf a (roleOf b c) := by
  simp [roleOf, String.append_assoc]

theorem follow_embedded (component segment : String) (segments : List String) :
    d.follow (.embedded component) (segment :: segments) =
      (d.componentMember? component segment).bind (d.follow · segments) := by
  rw [follow]

/-- A path that goes on leads to a member first. -/
theorem follow_append {segments others : List String} (more : others ≠ [])
    (reached : d.follow fact (segments ++ others) = some target) :
    ∃ inner, d.follow fact segments = some (.member inner) ∧
      d.follow inner others = some target := by
  induction segments generalizing fact with
  | nil =>
    refine ⟨fact, ?_, reached⟩
    unfold follow
    rfl
  | cons segment segments ih =>
    cases fact with
    | embedded component =>
      rw [List.cons_append, follow_embedded] at reached
      obtain ⟨member, declared, reached⟩ := Option.bind_eq_some_iff.mp reached
      rw [follow_embedded, declared]
      exact ih reached
    | association entityName =>
      -- the identifier of an association ends a path
      obtain ⟨next, others, rfl⟩ := List.exists_cons_of_ne_nil more
      cases segments <;> cases reached
    | basic className => cases reached
    | enumeration className => cases reached
    | collection shape element key => cases reached

/-- **The member before the end of a path**, and how the path goes on from it. -/
theorem target?_roleOf (reached : d.target? (roleOf front rest) = some target) :
    ∃ fact, d.declaredMember? front = some fact ∧
      d.follow fact (Text.dotted rest) = some target := by
  obtain ⟨first, others, eq⟩ := List.exists_cons_of_ne_nil (Text.dotted_ne_nil front)
  simp only [declaredMember?_eq_some]
  unfold target? at reached ⊢
  rw [Text.dotted_roleOf, eq, List.cons_append] at reached
  rw [eq]
  dsimp only at reached ⊢
  split at reached
  · cases reached
  · next named =>
    obtain ⟨member, declared, reached⟩ := Option.bind_eq_some_iff.mp reached
    obtain ⟨inner, here, onward⟩ := follow_append (Text.dotted_ne_nil rest) reached
    refine ⟨inner, ?_, onward⟩
    rw [if_neg named, declared, Option.bind_some, here]

/-- A path goes on from an embedded component, or ends with the identifier of an association. -/
theorem member_before (reached : d.target? (roleOf front rest) = some target) :
    (∃ component, d.declaredMember? front = some (.embedded component)) ∨
      ∃ entity, d.declaredMember? front = some (.association entity) ∧
        rest = d.identifier.property ∧ target = .associationIdentifier := by
  obtain ⟨fact, member, onward⟩ := target?_roleOf reached
  obtain ⟨segment, others, eq⟩ := List.exists_cons_of_ne_nil (Text.dotted_ne_nil rest)
  rw [eq] at onward
  cases fact with
  | embedded component => exact .inl ⟨component, member⟩
  | association entity =>
    cases others with
    | nil =>
      unfold follow at onward
      split at onward
      · next identifier =>
        cases onward
        refine .inr ⟨entity, member, ?_, rfl⟩
        rcases Text.dotted_eq_cons eq with ⟨-, same⟩ | ⟨tail, -, nothing⟩
        · exact same.trans identifier
        · exact absurd nothing (Text.dotted_ne_nil tail)
      · cases onward
    | cons next others => cases onward
  | basic className => cases onward
  | enumeration className => cases onward
  | collection shape element key => cases onward

/-- The way to a member leads through embedded components. -/
theorem component_before (member : d.declaredMember? (roleOf front rest) = some fact) :
    ∃ component, d.declaredMember? front = some (.embedded component) := by
  rcases member_before (declaredMember?_eq_some.mp member) with inside | ⟨_, _, _, identifier⟩
  · exact inside
  · cases identifier

/-- A declared type is that of something inside an embedded component, or the type of identifiers
behind an association. -/
theorem member_before_type {type : QueryType}
    (declared : d.declaredType? (roleOf front rest) = some type) :
    (∃ component, d.declaredMember? front = some (.embedded component)) ∨
      rest = d.identifier.property ∧ type = d.identifier.type ∧
        ∃ entity, d.declaredMember? front = some (.association entity) := by
  unfold declaredType? at declared
  obtain ⟨target, reached, typed⟩ := Option.map_eq_some_iff.mp declared
  refine (member_before reached).imp_right ?_
  rintro ⟨entity, member, last, rfl⟩
  exact ⟨last, typed.symm, entity, member⟩

/-- The identifier of an association stands right behind the association. -/
theorem association_before (reached : d.target? path = some .associationIdentifier) :
    ∃ front entity, path = roleOf front d.identifier.property ∧
      Text.dotted d.identifier.property = [d.identifier.property] ∧
      d.declaredMember? front = some (.association entity) := by
  by_cases cut : '.' ∈ path.toList
  · obtain ⟨front, last, rfl, single⟩ := Text.exists_roleOf_of_mem_last cut
    rcases member_before reached with ⟨component, member⟩ | ⟨entity, member, rfl, -⟩
    · -- one segment into a component is a member of it
      obtain ⟨fact, member', onward⟩ := target?_roleOf reached
      rw [member] at member'
      cases member'
      rw [single, follow_embedded] at onward
      obtain ⟨inner, -, onward⟩ := Option.bind_eq_some_iff.mp onward
      unfold follow at onward
      cases onward
    · exact ⟨front, entity, rfl, single, member⟩
  · unfold target? at reached
    rw [Text.dotted_of_plain cut] at reached
    dsimp only at reached
    split at reached
    · cases reached
    · obtain ⟨member, -, reached⟩ := Option.bind_eq_some_iff.mp reached
      unfold follow at reached
      cases reached

end Descriptor

/-! ## One path does not affect another -/

theorem Store.subclasses_remember (store : Store) (name path : String) (type : QueryType)
    (d : Descriptor) : (store.remember name path type).subclasses d = store.subclasses d := by
  unfold subclasses
  rw [remember_linkage, remember_descriptors, find?_remember, Option.map_map]
  have recorded : (fun k : Known => k.recorded) ∘
      (fun k => if k.name = name then k.remember path type else k) = (·.recorded) := by
    funext k
    dsimp only [Function.comp]
    split <;> simp
  rw [recorded]

namespace Descriptor

variable {store : Store} {d e : Descriptor} {path other : String}

/-- An entity answers by itself, or with the first of its subclasses that does. -/
theorem propertyType_value (d : Descriptor) (path : String) (store : Store) :
    (d.propertyType path store).value =
      (store.ownType? d path).or ((store.subclasses d).findSome? (store.ownType? · path)) := by
  rw [← Store.firstAnswer?_type]
  unfold propertyType Store.ownType?
  cases store.memo? d.name path with
  | some type => rfl
  | none =>
    cases d.declaredType? path with
    | some type => rfl
    | none =>
      cases store.firstAnswer? path (store.subclasses d) with
      | some answer => rfl
      | none => rfl

theorem propertyType_remember (ne : path ≠ other) (name : String) (type : QueryType) :
    (d.propertyType path (store.remember name other type)).value =
      (d.propertyType path store).value := by
  have own : ∀ e, (store.remember name other type).ownType? e path = store.ownType? e path := by
    intro e
    unfold Store.ownType?
    rw [Store.memo?_remember_of_ne (.inr ne)]
  rw [propertyType_value, propertyType_value, Store.subclasses_remember, own]
  simp only [own]

/-- **The answer for a path does not depend on what is asked about other paths.** -/
theorem propertyType_after (ne : path ≠ other) :
    (d.propertyType path (e.propertyType other store).store).value =
      (d.propertyType path store).value := by
  rcases e.propertyType_cases other store with ⟨_, _, _, after⟩ | ⟨_, _, _, _, after⟩ |
    ⟨_, _, _, _, _, _, after⟩ | ⟨_, _, _, _, after⟩
  · rw [after]
  · rw [after, propertyType_remember ne]
  · rw [after, propertyType_remember ne, propertyType_remember ne]
  · rw [after]

/-- A path that has a type can be required. -/
theorem requireType_value (d : Descriptor) (path : String) (store : Store) :
    ((d.requireType path).run store).value =
        ((d.propertyType path store).value.elim (.error (.noSuchProperty d.name path)) .ok) ∧
      ((d.requireType path).run store).store = (d.propertyType path store).store := by
  unfold requireType
  rw [(Attempt.run_lift_bind _ _ _).1, (Attempt.run_lift_bind _ _ _).2]
  cases (d.propertyType path store).value with
  | some type => exact ⟨rfl, rfl⟩
  | none => exact ⟨rfl, rfl⟩

/-- A type that has been given once can be required from then on. -/
theorem requireType_again {type : QueryType} (known : d ∈ store.descriptors)
    (answered : (d.propertyType path store).value = some type) :
    (d.requireType path).Reads (d.propertyType path store).store (.ok type) := by
  obtain ⟨again, still⟩ := propertyType_again known answered (.refl _)
  obtain ⟨required, after⟩ := d.requireType_value path (d.propertyType path store).store
  rw [again] at required
  exact ⟨required, after.trans still⟩

end Descriptor

theorem Schema.Reaches.traced {schema : Schema} {before after : Store}
    (reaches : schema.Reaches before after) (valid : before.Valid schema)
    (traced : before.Traced) : after.Traced :=
  reaches.keeps_of_valid (fun valid move traced => move.traced valid traced) valid traced

/-! ## Walks that stay with an entity -/

namespace Navigation

variable {schema : Schema} {base store : Store} {d : Descriptor} {cursor near next last : Cursor}
  {segment : Segment} {path : List Segment}

/-- **The walk has stayed with the entity.** All it has asked, it has asked of the entity; the
answer here is the one that the entity gave at the outset, and so are those for longer paths, which
are still to be asked for. -/
structure Cursor.Along (base store : Store) (d : Descriptor) (cursor : Cursor) : Prop where
  owner : cursor.owner = d
  onOwner : cursor.component = none
  started : cursor.relative.isEmpty = false
  here : (d.propertyType cursor.relative base).value = some cursor.current
  ahead : ∀ path : String, cursor.relative.length < path.length →
    (d.propertyType path store).value = (d.propertyType path base).value

/-- A beginning of the path at which the entity answers with something other than an embedded
component, so that a walk does not stay with the entity. -/
def Leaves (base : Store) (d : Descriptor) (path : String) : Prop :=
  ∃ front rest type, path = Descriptor.roleOf front rest ∧
    (d.propertyType front base).value = some type ∧ ∀ component, type ≠ .embedded component

/-- The segments that are left of a text once a beginning of it has been walked. -/
def Remains (text front : String) (path : List Segment) : Prop :=
  (path = [] ∧ text = front) ∨
    ∃ rest, text = Descriptor.roleOf front rest ∧ path.map (·.name) = Text.dotted rest

namespace Remains

variable {text front : String}

theorem of_map (named : (segment :: path).map (·.name) = Text.dotted text) :
    Remains text segment.name path := by
  rw [List.map_cons] at named
  rcases Text.dotted_eq_cons named.symm with ⟨nothing, same⟩ | ⟨rest, whole, others⟩
  · exact .inl ⟨List.map_eq_nil_iff.mp nothing, same⟩
  · exact .inr ⟨rest, whole, others.symm⟩

theorem eq_of_nil (remains : Remains text front []) : text = front := by
  rcases remains with ⟨-, same⟩ | ⟨rest, -, named⟩
  · exact same
  · exact absurd named.symm (Text.dotted_ne_nil rest)

theorem exists_rest (remains : Remains text front (segment :: path)) :
    ∃ rest, text = Descriptor.roleOf front rest ∧
      (segment :: path).map (·.name) = Text.dotted rest := by
  rcases remains with ⟨nothing, -⟩ | more
  · cases nothing
  · exact more

theorem of_cons (remains : Remains text front (segment :: path)) :
    Remains text (Descriptor.roleOf front segment.name) path := by
  obtain ⟨rest, rfl, named⟩ := remains.exists_rest
  rcases of_map named with ⟨nothing, rfl⟩ | ⟨rest, rfl, others⟩
  · exact .inl ⟨nothing, rfl⟩
  · exact .inr ⟨rest, (Descriptor.roleOf_assoc _ _ _).symm, others⟩

end Remains

namespace Cursor

/-- The type of a segment is read on the entity. -/
theorem settle_along (owner : near.owner = d) (onOwner : near.component = none)
    (started : near.relative.isEmpty = false)
    (ahead : ∀ path : String, near.relative.length ≤ path.length →
      (d.propertyType path store).value = (d.propertyType path base).value)
    (value : ((near.settle segment).run store).value = .ok next) :
    next.Along base ((near.settle segment).run store).store d ∧
      next.relative = near.relative := by
  obtain ⟨type, read, rfl, after⟩ := settle_eq_ok value
  rw [typeHere_of_owner onOwner, owner] at read after
  refine ⟨⟨owner, onOwner, started, ?_, ?_⟩, rfl⟩
  · rw [← ahead _ le_rfl]
    exact read
  · intro path longer
    -- what the entity remembers more is of this path, and those ahead are longer
    have other : path ≠ near.relative := by
      rintro rfl
      exact absurd longer (lt_irrefl _)
    rw [after, Descriptor.propertyType_after other]
    exact ahead path (le_of_lt longer)

/-- From an embedded component a walk goes on with a longer path on the same owner. -/
theorem advance_of_embedded {component : String} (embedded : cursor.current = .embedded component)
    (started : cursor.relative.isEmpty = false) (named : ¬ segment.name.isEmpty) :
    cursor.advance schema segment = settle
      { cursor with relative := Descriptor.roleOf cursor.relative segment.name } segment := by
  have single : cursor.current.isCollection = false := by
    rw [embedded]
    rfl
  rw [advance_of_named named]
  unfold target
  rw [embedded]
  dsimp only
  rw [pure_bind]
  unfold approach
  dsimp only
  rw [single, started, if_neg Bool.false_ne_true, Bool.not_false, if_pos rfl, pure_bind]
  rfl

/-- From a reference to an entity a walk goes on with that entity. -/
theorem advance_of_entity {name : String} (reference : cursor.current = .entity name)
    (named : ¬ segment.name.isEmpty) :
    cursor.advance schema segment = (do
      let owner ← diagnosedAt cursor.previous (schema.realize name)
      settle { cursor with owner, component := none, relative := segment.name } segment) := by
  rw [advance_of_named named]
  unfold target
  rw [reference]
  dsimp only
  rw [pure_bind]
  unfold approach
  dsimp only
  rw [bind_assoc]
  rfl

/-- One segment into an embedded component stays with the entity. -/
theorem Along.advance (along : cursor.Along base store d) {component : String}
    (embedded : cursor.current = .embedded component)
    (value : ((cursor.advance schema segment).run store).value = .ok next) :
    next.Along base ((cursor.advance schema segment).run store).store d ∧
      next.relative = Descriptor.roleOf cursor.relative segment.name := by
  have named := named_of_advance value
  rw [advance_of_embedded embedded along.started named] at value ⊢
  have longer : cursor.relative.length <
      (Descriptor.roleOf cursor.relative segment.name).length := by
    have dot : ".".length = 1 := rfl
    simp only [Descriptor.roleOf, String.length_append]
    omega
  refine settle_along along.owner along.onOwner ?_ ?_ value
  · simp [Descriptor.roleOf]
  · intro path atLeast
    exact along.ahead path (lt_of_lt_of_le longer atLeast)

/-- **A walk of any length** asks the entity for the whole path, or comes to where it leaves the
entity. -/
theorem Along.walk (path : List Segment) (along : cursor.Along base store d) {text : String}
    (remains : Remains text cursor.relative path)
    (value : ((path.foldlM (Cursor.advance schema) cursor).run store).value = .ok last) :
    (d.propertyType text base).value = some last.current ∨ Leaves base d text := by
  -- as long as components are found, each step is taken along the entity
  induction path generalizing cursor store with
  | nil =>
    cases value
    rw [remains.eq_of_nil]
    exact .inl along.here
  | cons segment path ih =>
    by_cases embedded : ∃ component, cursor.current = .embedded component
    · obtain ⟨component, embedded⟩ := embedded
      rw [List.foldlM_cons] at value
      obtain ⟨near, moved, value, -⟩ := Attempt.bind_ok value
      obtain ⟨along', relative⟩ := along.advance embedded moved
      refine ih along' ?_ value
      rw [relative]
      exact remains.of_cons
    · obtain ⟨rest, whole, -⟩ := remains.exists_rest
      exact .inr ⟨cursor.relative, rest, cursor.current, whole, along.here,
        fun component eq => embedded ⟨component, eq⟩⟩

/-- The first segment is read on the entity that the walk starts from. -/
theorem start_along {root : String} {span : Span}
    (reads : (schema.realize root).Reads base (.ok d)) (name : d.name = root)
    (value : (((start d span).advance schema segment).run base).value = .ok next) :
    next.Along base (((start d span).advance schema segment).run base).store d ∧
      next.relative = segment.name := by
  have reference : (start d span).current = .entity root := congrArg QueryType.entity name
  have named := named_of_advance value
  rw [advance_of_entity reference named] at value ⊢
  have realized := reads.adapt (·.diagnose (start d span).previous)
  obtain ⟨owner, realized', value, after⟩ := Attempt.bind_ok value
  cases realized.1.symm.trans realized'
  have still : ((diagnosedAt (start d span).previous (schema.realize root)).run base).store =
    base := realized.2
  rw [still] at value after
  rw [after]
  exact settle_along rfl rfl (Bool.eq_false_iff.mpr named) (fun _ _ => rfl) value

end Cursor

/-- **A walk from an entity** asks it for the whole path, or comes to where it leaves it. -/
theorem walk_along {root text : String} {rootSpan : Span}
    (realized : ((schema.realize root).run store).value = .ok d)
    (named : path.map (·.name) = Text.dotted text)
    (value : ((walk schema root rootSpan path).run store).value = .ok last) :
    (d.propertyType text ((schema.realize root).run store).store).value = some last.current ∨
      Leaves ((schema.realize root).run store).store d text := by
  have reads := (schema.realize_repeatable root store).again realized (.refl _)
  have name := (Schema.realize_known realized).2
  unfold walk at value
  obtain ⟨owner, realized', value, -⟩ := Attempt.bind_ok value
  cases realized.symm.trans (Attempt.ok_of_adapt realized')
  obtain ⟨segment, path, rfl⟩ : ∃ segment others, path = segment :: others := by
    refine List.exists_cons_of_ne_nil ?_
    rintro rfl
    exact Text.dotted_ne_nil text named.symm
  rw [List.foldlM_cons] at value
  obtain ⟨near, moved, value, -⟩ := Attempt.bind_ok value
  obtain ⟨along, relative⟩ := Cursor.start_along reads name moved
  refine along.walk path ?_ value
  rw [relative]
  exact .of_map named

/-- What a walk reads on an entity that it is led to is from then on the type that the entity has
there. -/
theorem Cursor.advance_reads {name : String} (reference : cursor.current = .entity name)
    (value : ((cursor.advance schema segment).run store).value = .ok next) :
    (schema.referencedType name segment.name).Reads
      ((cursor.advance schema segment).run store).store (.ok next.current) := by
  have named := named_of_advance value
  rw [advance_of_entity reference named] at value ⊢
  obtain ⟨owner, realized, value, after⟩ := Attempt.bind_ok value
  let near : Cursor := { cursor with owner, component := none, relative := segment.name }
  have known : near.owner ∈
      ((diagnosedAt cursor.previous (schema.realize name)).run store).store.descriptors :=
    diagnosedAt_realize_known realized
  have grown := (settle_madeOf schema known segment).reaches.grows
  have reads := (schema.realize_repeatable name store).again (Attempt.ok_of_adapt realized) grown
  rw [after]
  refine reads.bind ?_
  obtain ⟨type, read, rfl, after'⟩ := settle_eq_ok value
  rw [after']
  exact Descriptor.requireType_again known read

/-- **A walk does not leave an entity on the way to one of its own members.** -/
theorem not_leaves_of_member (valid : base.Valid schema) (traced : base.Traced)
    (known : d ∈ base.descriptors) {text : String} {fact : MemberFact}
    (member : d.declaredMember? text = some fact) : ¬ Leaves base d text := by
  rintro ⟨front, rest, type, rfl, answered, other⟩
  obtain ⟨component, embedded⟩ := Descriptor.component_before member
  have declared := Descriptor.declaredType?_of_member embedded
  rw [Descriptor.propertyType_of_declared traced valid known declared] at answered
  exact other component (Option.some.inj answered).symm

/-- **A walk that leaves an entity without the path** does so where an entity below, which has it,
has an embedded component or an association. -/
theorem Leaves.below {text : String} {asked : QueryType} {known : List Descriptor}
    (leaves : Leaves base d text) (undeclared : d.target? text = none)
    (provides : d.Provides known text asked) :
    ∃ front rest type e, text = Descriptor.roleOf front rest ∧
      (d.propertyType front base).value = some type ∧
      (∀ component, type ≠ .embedded component) ∧
      e ∈ known ∧ Descriptor.Below known d e ∧ e.declaredType? text = some asked ∧
      ((∃ component, e.declaredMember? front = some (.embedded component)) ∨
        rest = e.identifier.property ∧ asked = e.identifier.type ∧
          ∃ other, e.declaredMember? front = some (.association other)) := by
  obtain ⟨front, rest, type, rfl, answered, other⟩ := leaves
  obtain ⟨e, declared, rfl | ⟨-, there, below⟩⟩ := provides.source
  · rw [Descriptor.declaredType?_eq_none.mpr undeclared] at declared
    cases declared
  · exact ⟨front, rest, type, e, rfl, answered, other, there, below, declared,
      Descriptor.member_before_type declared⟩

/-- **The identifier of an association is read on the associated entity.** -/
theorem walk_association (valid : store.Valid schema) (traced : store.Traced)
    {root text : String} {rootSpan : Span}
    (realized : ((schema.realize root).run store).value = .ok d)
    (reached : d.target? text = some .associationIdentifier)
    (named : path.map (·.name) = Text.dotted text)
    (value : ((walk schema root rootSpan path).run store).value = .ok last) :
    ∃ front entity, text = Descriptor.roleOf front d.identifier.property ∧
      d.declaredMember? front = some (.association entity) ∧
      (schema.referencedType entity d.identifier.property).Reads
        ((walk schema root rootSpan path).run store).store (.ok last.current) := by
  obtain ⟨front, entity, rfl, single, member⟩ := Descriptor.association_before reached
  refine ⟨front, entity, rfl, member, ?_⟩
  rw [Text.dotted_roleOf, single] at named
  obtain ⟨path, others, rfl, fronts, lastName⟩ := List.map_eq_append_iff.mp named
  obtain ⟨segment, rfl, name⟩ := List.map_eq_singleton_iff.mp lastName
  rw [walk_append] at value ⊢
  obtain ⟨cursor, walked, moved, after⟩ := Attempt.bind_ok value
  rw [after, ← name]
  refine Cursor.advance_reads ?_ moved
  have reaches := schema.realize_reaches root store
  have valid' := reaches.valid valid
  have traced' := reaches.traced valid traced
  have known := (Schema.realize_known realized).1
  -- up to the association the walk stays with the entity, since this is a member of it
  rcases walk_along realized fronts walked with answered | leaves
  · have declared := Descriptor.declaredType?_of_member member
    rw [Descriptor.propertyType_of_declared traced' valid' known declared] at answered
    exact (Option.some.inj answered).symm
  · exact absurd leaves (not_leaves_of_member valid' traced' known member)

/-! ## Paths as texts -/

theorem map_name_layOut (offset : Nat) (names : List String) :
    (layOut offset names).map (·.name) = names := by
  induction names generalizing offset with
  | nil => rfl
  | cons name names ih =>
    unfold layOut
    rw [List.map_cons, ih]

/-- The path behind an alias is walked. -/
theorem resolveText_eq_ok {root rootAlias text : String} {offset : Nat} {type : QueryType}
    (plain : '.' ∉ rootAlias.toList)
    (value : ((resolveText schema root (Descriptor.roleOf rootAlias text) offset).run store).value =
      .ok type) :
    ∃ rootSpan path last, path.map (·.name) = Text.dotted text ∧
      ((walk schema root rootSpan path).run store).value = .ok last ∧ last.current = type ∧
      ((resolveText schema root (Descriptor.roleOf rootAlias text) offset).run store).store =
        ((walk schema root rootSpan path).run store).store := by
  unfold resolveText segments at value ⊢
  rw [Text.dotted_roleOf, Text.dotted_of_plain plain, List.singleton_append, layOut] at value ⊢
  dsimp only at value ⊢
  split at value
  · cases value
  · next named =>
    rw [if_neg named]
    rw [resolve_eq_walk] at value ⊢
    obtain ⟨last, walked, same, after⟩ := Attempt.bind_ok value
    exact ⟨_, _, last, map_name_layOut _ _, walked, Except.ok.inj same, after⟩

end Navigation

/-! ## Sessions -/

theorem Schema.referencedType_eq_ok {schema : Schema} {store : Store} {name path : String}
    {type : QueryType} (value : ((schema.referencedType name path).run store).value = .ok type) :
    ∃ d, ((schema.realize name).run store).value = .ok d ∧
      (d.propertyType path ((schema.realize name).run store).store).value = some type ∧
      ((schema.referencedType name path).run store).store =
        (d.propertyType path ((schema.realize name).run store).store).store := by
  unfold referencedType at value ⊢
  obtain ⟨d, realized, value, after⟩ := Attempt.bind_ok value
  obtain ⟨required, after'⟩ := d.requireType_value path ((schema.realize name).run store).store
  refine ⟨d, realized, ?_, after.trans after'⟩
  rw [required] at value
  cases answered : (d.propertyType path ((schema.realize name).run store).store).value with
  | some answer =>
    rw [answered] at value
    exact congrArg some (Except.ok.inj value)
  | none =>
    rw [answered] at value
    cases value

namespace Session

variable {s : Session}

theorem step_referencedType (isOpen : s.isOpen) (entity path : String) :
    (s.step (.ask (.referencedType entity path))).answer =
        report .type ((s.schema.referencedType entity path).run s.store).value ∧
      (s.step (.ask (.referencedType entity path))).session =
        { s with store := ((s.schema.referencedType entity path).run s.store).store } := by
  rw [step_ask isOpen rfl]
  exact s.look_schema (s.schema.referencedType entity path) .type

theorem step_path (isOpen : s.isOpen) (root text : String) (offset : Nat) :
    (s.step (.ask (.path root text offset))).answer =
        .navigated ((Navigation.resolveText s.schema root text offset).run s.store).value ∧
      (s.step (.ask (.path root text offset))).session =
        { s with
          store := ((Navigation.resolveText s.schema root text offset).run s.store).store } := by
  rw [step_ask isOpen rfl]
  exact ⟨rfl, rfl⟩

theorem step_propertyType (isOpen : s.isOpen) {entity : String} {d : Descriptor}
    (realized : ((s.schema.realize entity).run s.store).value = .ok d) (path : String) :
    (s.step (.entity entity (.propertyType path))).answer =
      .optionalType
        (d.propertyType path ((s.schema.realize entity).run s.store).store).value := by
  show (s.look (s.answerEntity entity (.propertyType path))).answer = _
  rw [(s.look_reply _).1]
  have realized' : ((s.schema.realize entity).orSchemaError.run s.store).value = .ok d := by
    unfold Attempt.orSchemaError
    rw [Attempt.adapt_value, realized]
    rfl
  unfold answerEntity
  rw [entity_of_open isOpen, (Attempt.run_bind_ok _ realized').1, (Attempt.run_lift_bind _ _ _).1]
  rfl

/-- An open session answers with the type that the entity gives. -/
theorem answer_propertyType (isOpen : s.isOpen) {entity path : String} {type : Option QueryType}
    (value : ((s.schema.realize entity).run s.store).value.toOption.map (fun d =>
      (d.propertyType path ((s.schema.realize entity).run s.store).store).value) = some type) :
    (s.step (.entity entity (.propertyType path))).answer = .optionalType type := by
  cases realized : ((s.schema.realize entity).run s.store).value with
  | ok d =>
    rw [realized] at value
    rw [step_propertyType isOpen realized]
    exact congrArg Answer.optionalType (Option.some.inj value)
  | error e =>
    rw [realized] at value
    cases value

theorem answer_referencedType (isOpen : s.isOpen) {entity path : String} {type : QueryType}
    (value : ((s.schema.referencedType entity path).run s.store).value = .ok type) :
    (s.step (.ask (.referencedType entity path))).answer = .type type := by
  rw [(step_referencedType isOpen entity path).1, value]
  rfl

theorem answer_path (isOpen : s.isOpen) {root text : String} {offset : Nat}
    {result : Except Diagnostic QueryType}
    (value : ((Navigation.resolveText s.schema root text offset).run s.store).value = result) :
    (s.step (.ask (.path root text offset))).answer = .navigated result := by
  rw [(step_path isOpen root text offset).1, value]

/-- What is behind a type that a session gives for a path of an entity. -/
theorem Sound.referenced (sound : s.Sound) (isOpen : s.isOpen) {entity path : String}
    {asked : QueryType}
    (answer : (s.step (.ask (.referencedType entity path))).answer = .type asked) :
    ∃ d, ((s.schema.realize entity).run s.store).value = .ok d ∧
      s.schema.describe? entity = some d ∧
      (d.propertyType path ((s.schema.realize entity).run s.store).store).value = some asked ∧
      d.Provides (s.step (.ask (.referencedType entity path))).session.store.descriptors path
        asked := by
  obtain ⟨answer', session⟩ := step_referencedType isOpen entity path
  obtain ⟨d, realized, answered, after⟩ :=
    Schema.referencedType_eq_ok
      (ok_of_report (fun _ => Answer.type.inj) nofun (answer'.symm.trans answer))
  have reaches := s.schema.realize_reaches entity s.store
  have valid := reaches.valid sound.valid
  obtain ⟨here, name⟩ := Schema.realize_known realized
  refine ⟨d, realized, name ▸ valid.faithful d here, answered, ?_⟩
  have provides := Descriptor.propertyType_provides (reaches.traced sound.valid sound.traced) valid
    here answered
  rw [session]
  dsimp only
  rw [after]
  exact provides.mono (d.propertyType_reaches s.schema here path).grows.descriptors.subset

/-- What is behind a path that a session has walked. -/
theorem path_navigated (isOpen : s.isOpen) {entity rootAlias path : String} {offset : Nat}
    {walked : QueryType} (plain : '.' ∉ rootAlias.toList)
    (answer : (s.step (.ask (.path entity (rootAlias ++ "." ++ path) offset))).answer =
      .navigated (.ok walked)) :
    ∃ rootSpan segments last, segments.map (·.name) = Text.dotted path ∧
      ((Navigation.walk s.schema entity rootSpan segments).run s.store).value = .ok last ∧
      last.current = walked ∧
      (s.step (.ask (.path entity (rootAlias ++ "." ++ path) offset))).session.store =
        ((Navigation.walk s.schema entity rootSpan segments).run s.store).store := by
  obtain ⟨answer', session⟩ := step_path isOpen entity (rootAlias ++ "." ++ path) offset
  obtain ⟨rootSpan, segments, last, named, reached, ended, after⟩ :=
    Navigation.resolveText_eq_ok plain (Answer.navigated.inj (answer'.symm.trans answer))
  exact ⟨rootSpan, segments, last, named, reached, ended,
    (congrArg Session.store session).trans after⟩

/-- **Asking for a path and walking it agree**, up to where the walk leaves the entity. Let an open
session give a type for a path of an entity, and also a type at the end of the path when it is
walked from an alias of the entity, both in the same state. The two are the same if the entity
answers every beginning of the path with an embedded component. In any case, they are the same if
the path leads to a member of the entity. If it leads to the identifier of an association, then the
first is the type that all identifiers have, and the second is what the associated entity says. And
if the entity itself does not have the path, then they are the same, or the first comes from an
entity below, which has an embedded component, or an association with its identifier, where the
entity answers with something that is no component. -/
theorem path_agrees (sources : List Source) (settings : Settings) (dialect : Function.Dialect)
    (sink : Sink) (requests : List Request)
    (isOpen : ((start sources settings dialect sink).run requests).2.isOpen) :
    let schema : Schema := ⟨sources, settings.identifier⟩
    let s := ((start sources settings dialect sink).run requests).2
    ∀ (entity rootAlias path : String) (offset : Nat) (asked walked : QueryType),
      '.' ∉ rootAlias.toList →
      let referenced := s.step (.ask (.referencedType entity path))
      let navigated := s.step (.ask (.path entity (rootAlias ++ "." ++ path) offset))
      let answers (front : String) := (s.step (.entity entity (.propertyType front))).answer
      let known := referenced.session.store.descriptors
      referenced.answer = .type asked → navigated.answer = .navigated (.ok walked) →
      ((∀ front rest, path = Descriptor.roleOf front rest →
        ∃ component, answers front = .optionalType (some (.embedded component))) →
          asked = walked) ∧
      ∃ d, schema.describe? entity = some d ∧
        match d.target? path with
        | some (.member _) => asked = walked
        | some .associationIdentifier =>
          asked = settings.identifier.type ∧
            ∃ front other, path = Descriptor.roleOf front settings.identifier.property ∧
              d.declaredMember? front = some (.association other) ∧
              (navigated.session.step
                (.ask (.referencedType other settings.identifier.property))).answer = .type walked
        | none =>
          asked = walked ∨ ∃ front rest type e, path = Descriptor.roleOf front rest ∧
            answers front = .optionalType (some type) ∧
            (∀ component, type ≠ .embedded component) ∧
            e ∈ known ∧ Descriptor.Below known d e ∧ e.declaredType? path = some asked ∧
            ((∃ component, e.declaredMember? front = some (.embedded component)) ∨
              rest = settings.identifier.property ∧ asked = settings.identifier.type ∧
                ∃ other, e.declaredMember? front = some (.association other)) := by
  intro schema s entity rootAlias path offset asked walked plain referenced navigated answers known
    hasAsked hasWalked
  have sound : s.Sound := (start_sound sources settings dialect sink).run requests
  have same : s.schema = schema := run_schema _ requests
  obtain ⟨d, realized, found, answered, provides⟩ := sound.referenced isOpen hasAsked
  have described : schema.describe? entity = some d := same ▸ found
  obtain ⟨rootSpan, segments, last, named, reached, rfl, after⟩ :=
    path_navigated isOpen plain hasWalked
  have reaches := s.schema.realize_reaches entity s.store
  have valid := reaches.valid sound.valid
  have traced := reaches.traced sound.valid sound.traced
  have here := (Schema.realize_known realized).1
  have identifier : d.identifier = settings.identifier := Schema.identifier_of_describe? described
  have answers_eq : ∀ front, answers front = .optionalType
      (d.propertyType front ((s.schema.realize entity).run s.store).store).value :=
    step_propertyType isOpen realized
  have either : asked = last.current ∨
      Navigation.Leaves ((s.schema.realize entity).run s.store).store d path := by
    refine (Navigation.walk_along realized named reached).imp_left fun ended => ?_
    exact Option.some.inj (answered.symm.trans ended)
  refine ⟨?_, d, described, ?_⟩
  · intro embedded
    refine either.resolve_right ?_
    rintro ⟨front, rest, type, whole, answer, other⟩
    obtain ⟨component, inside⟩ := embedded front rest whole
    rw [answers_eq, answer] at inside
    exact other component (Option.some.inj (Answer.optionalType.inj inside))
  · cases target : d.target? path with
    | none =>
      refine either.imp_right fun leaves => ?_
      obtain ⟨front, rest, type, e, whole, answer, other, there, below, declared, before⟩ :=
        leaves.below target provides
      have sound' : referenced.session.Sound := sound.run [.ask (.referencedType entity path)]
      have described' := sound'.valid.faithful e there
      rw [s.step_schema, same] at described'
      rw [show e.identifier = settings.identifier from
        Schema.identifier_of_describe? described'] at before
      refine ⟨front, rest, type, e, whole, ?_, other, there, below, declared, before⟩
      rw [answers_eq, answer]
    | some target' =>
      cases target' with
      | member fact =>
        have member : d.declaredMember? path = some fact := by
          unfold Descriptor.declaredMember?
          rw [target]
        exact either.resolve_right (Navigation.not_leaves_of_member valid traced here member)
      | associationIdentifier =>
        have declared : d.declaredType? path = some settings.identifier.type := by
          unfold Descriptor.declaredType?
          rw [target, ← identifier]
          rfl
        rw [Descriptor.propertyType_of_declared traced valid here declared] at answered
        refine ⟨(Option.some.inj answered).symm, ?_⟩
        obtain ⟨front, other, whole, member, reads⟩ :=
          Navigation.walk_association sound.valid sound.traced realized target named reached
        rw [identifier] at whole reads
        refine ⟨front, other, whole, member, ?_⟩
        have isOpen' : navigated.session.isOpen := (s.ask_isOpen _).trans isOpen
        have schema' : navigated.session.schema = s.schema := s.step_schema _
        have store' : navigated.session.store =
            ((Navigation.walk s.schema entity rootSpan segments).run s.store).store := after
        rw [(step_referencedType isOpen' _ _).1, schema', store', reads.1]
        rfl

/-- Orders of a customer from a place. An export names a port as its place, and has a ship. -/
def trade : Mapping where
  entities := .ofList [
    ("Order", { name := "Order", properties := .ofList [
      ("customer", .association "Person"), ("place", .association "Town")] }),
    ("Export", { name := "Export", parent := some "Order", properties := .ofList [
      ("place", .embedded "Port"), ("ship", .embedded "Ship")] }),
    ("Person", { name := "Person", properties := .ofList [("id", .basic "long")] }),
    ("Town", { name := "Town", properties := .ofList [("code", .basic "int")] })]
  components := .ofList [
    ("Port", .ofList [("code", .basic "String")]),
    ("Ship", .ofList [("flag", .basic "String")])]

/-- The flag of the ship of an order is that of an export, asked for or walked to. -/
theorem flag_of_ship :
    let s := ((start [.mapping trade] {} .standard .collecting).run [.entity "Export" .describe]).2
    let answers (front : String) := (s.step (.entity "Order" (.propertyType front))).answer
    s.isOpen ∧ '.' ∉ "o".toList ∧
      (∀ front rest, "ship.flag" = Descriptor.roleOf front rest →
        ∃ component, answers front = .optionalType (some (.embedded component))) ∧
      ∃ asked walked,
        (s.step (.ask (.referencedType "Order" "ship.flag"))).answer = .type asked ∧
        (s.step (.ask (.path "Order" ("o" ++ "." ++ "ship.flag") 0))).answer =
          .navigated (.ok walked) ∧
        asked = walked := by
  intro s answers
  have isOpen : s.isOpen := by decide +kernel
  have plain : '.' ∉ "o".toList := by decide
  have embedded : ∀ front rest, "ship.flag" = Descriptor.roleOf front rest →
      ∃ component, answers front = .optionalType (some (.embedded component)) := by
    intro front rest whole
    have split := Text.mem_ownerPathSplits.mpr whole
    rw [show Text.ownerPathSplits "ship.flag" = [("ship", "flag")] by decide +kernel] at split
    cases List.mem_singleton.mp split
    exact ⟨"Ship", answer_propertyType isOpen (by decide +kernel)⟩
  have asked : (s.step (.ask (.referencedType "Order" "ship.flag"))).answer =
      .type (.scalar .string) := answer_referencedType isOpen (by decide +kernel)
  have walked : (s.step (.ask (.path "Order" ("o" ++ "." ++ "ship.flag") 0))).answer =
      .navigated (.ok (.scalar .string)) := answer_path isOpen (by decide +kernel)
  obtain ⟨agree, -⟩ := path_agrees [.mapping trade] {} .standard .collecting
    [.entity "Export" .describe] isOpen "Order" "o" "ship.flag" 0 _ _ plain asked walked
  exact ⟨isOpen, plain, embedded, _, _, asked, walked, agree embedded⟩

/-- **Asking and walking need not agree.** The identifier of the customer of an order has the type
that all identifiers have, but a walk finds the type that persons give it. And orders get the code
of their place from exports, which see a port there, but a walk comes to a town. -/
theorem path_disagrees :
    let s := ((start [.mapping trade] {} .standard .collecting).run [.entity "Export" .describe]).2
    ((s.step (.ask (.referencedType "Order" "customer.id"))).answer = .type (.scalar .integer) ∧
      (s.step (.ask (.path "Order" "o.customer.id" 0))).answer =
        .navigated (.ok (.scalar .long))) ∧
    ((s.step (.ask (.referencedType "Order" "place.code"))).answer = .type (.scalar .string) ∧
      (s.step (.ask (.path "Order" "o.place.code" 0))).answer =
        .navigated (.ok (.scalar .integer))) := by
  intro s
  refine ⟨⟨answer_referencedType ?_ ?_, answer_path ?_ ?_⟩, answer_referencedType ?_ ?_,
    answer_path ?_ ?_⟩
  all_goals decide +kernel

end Session

end EntityQuery
