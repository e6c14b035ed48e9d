import EntityQuery.ClassModel.Example
import EntityQuery.Proofs.Lineage
import EntityQuery.Proofs.Provenance

/-!
# Subclass fallback with one source

Where a schema has one source, all descent is that of one class model or of one mapping. Then
subclasses of subclasses are subclasses, unless one comes back to the class that one started from,
on a circle or under another name (`Descriptor.isSubclass_trans`). Coming back to it is of no use
to an entity that is looking for a type it does not declare. So a chain of subclasses that provides
a type comes to the same as one step: what an entity provides is its own type, or the own type of
some known subclass.
-/

namespace EntityQuery

namespace Descriptor

variable {a b : Descriptor} {path : String}

/-! ## One class under two names -/

theorem componentMember?_eq (shape : a.shape = b.shape) :
    a.componentMember? = b.componentMember? := by
  unfold componentMember?
  rw [shape]

theorem follow_eq (shape : a.shape = b.shape) (identifier : a.identifier = b.identifier)
    (fact : MemberFact) (rest : List String) : a.follow fact rest = b.follow fact rest := by
  have component := componentMember?_eq shape
  induction rest generalizing fact with
  | nil =>
    unfold follow
    rfl
  | cons segment rest ih =>
    cases fact with
    | embedded className =>
      unfold follow
      rw [component]
      exact Option.bind_congr fun member _ => ih member
    | association entityName =>
      cases rest with
      | nil =>
        unfold follow
        rw [identifier]
      | cons next rest => rfl
    | basic className => rfl
    | enumeration className => rfl
    | collection shape element key => rfl

/-- What a class declares does not depend on the name it goes by. -/
theorem target?_eq_of_class {className : String} {model : ClassModel}
    (shapeA : a.shape = .introspected className model)
    (shapeB : b.shape = .introspected className model)
    (identifier : a.identifier = b.identifier) (path : String) :
    a.target? path = b.target? path := by
  have shape : a.shape = b.shape := shapeA.trans shapeB.symm
  have member : a.member? = b.member? := by
    unfold member?
    rw [shapeA, shapeB]
  have follow : a.follow = b.follow :=
    funext fun fact => funext fun rest => follow_eq shape identifier fact rest
  unfold target?
  rw [member, follow]

theorem declaredType?_eq_none : a.declaredType? path = none ↔ a.target? path = none :=
  Option.map_eq_none_iff

/-- A collection is typed with a role of the entity that declares it. -/
theorem declaredType?_of_collection {type : QueryType} {shape : String} {element : MemberFact}
    {key : Option MemberFact} (declared : a.declaredType? path = some type)
    (member : a.declaredMember? path = some (.collection shape element key)) :
    ∃ kind element key, type = .collection (roleOf a.name path) kind element key := by
  rw [declaredType?_of_member member] at declared
  exact ⟨_, _, _, (Option.some.inj declared).symm⟩

/-! ## Subclasses by shape -/

theorem isSubclass_of_classes {mine theirs : String} {m m' : ClassModel}
    (shapeA : a.shape = .introspected mine m) (shapeB : b.shape = .introspected theirs m') :
    a.isSubclass b ↔ b.name ≠ a.name ∧ theirs ≠ mine ∧ m'.descendsFrom theirs mine := by
  simp [isSubclass, shapeA, shapeB]

theorem isSubclass_of_mappings {m m' : Mapping} (shapeA : a.shape = .mapped m)
    (shapeB : b.shape = .mapped m') :
    a.isSubclass b ↔ b.name ≠ a.name ∧ m'.descendsFrom b.name a.name := by
  simp [isSubclass, shapeA, shapeB]

end Descriptor

/-! ## One source -/

namespace Schema

variable {source : Source} {identifier : Identifier} {d : Descriptor} {name : String}

/-- With one source, a descriptor is what that source says of its name. -/
theorem describe?_single (described : describe? ⟨[source], identifier⟩ name = some d) :
    source.shape? name = some d.shape ∧ d.identifier = identifier := by
  obtain ⟨shape, found, rfl⟩ := Option.map_eq_some_iff.mp described
  refine ⟨?_, rfl⟩
  unfold shape? at found
  rw [List.findSome?_singleton] at found
  exact found

end Schema

section Single

variable {source : Source} {identifier : Identifier} {a b c : Descriptor}

/-- **Subclasses of subclasses are subclasses**, or declare what the entity itself declares. -/
theorem Descriptor.isSubclass_trans
    (describedA : Schema.describe? ⟨[source], identifier⟩ a.name = some a)
    (describedB : Schema.describe? ⟨[source], identifier⟩ b.name = some b)
    (describedC : Schema.describe? ⟨[source], identifier⟩ c.name = some c)
    (upper : a.isSubclass b) (lower : b.isSubclass c) :
    a.isSubclass c ∨ ∀ path, c.target? path = a.target? path := by
  by_cases same : c.name = a.name
  · rw [same, describedA] at describedC
    cases describedC
    exact .inr fun _ => rfl
  · obtain ⟨shapeA, idA⟩ := Schema.describe?_single describedA
    obtain ⟨shapeB, -⟩ := Schema.describe?_single describedB
    obtain ⟨shapeC, idC⟩ := Schema.describe?_single describedC
    cases source with
    | classes model =>
      obtain ⟨classA, -, shapeA⟩ := Option.map_eq_some_iff.mp shapeA
      obtain ⟨classB, -, shapeB⟩ := Option.map_eq_some_iff.mp shapeB
      obtain ⟨classC, -, shapeC⟩ := Option.map_eq_some_iff.mp shapeC
      have above := ((isSubclass_of_classes shapeA.symm shapeB.symm).mp upper).2.2
      have below := ((isSubclass_of_classes shapeB.symm shapeC.symm).mp lower).2.2
      by_cases circle : classC = classA
      · subst circle
        exact .inr (target?_eq_of_class shapeC.symm shapeA.symm (idC.trans idA.symm))
      · refine .inl ((isSubclass_of_classes shapeA.symm shapeC.symm).mpr ⟨same, circle, ?_⟩)
        exact ClassModel.descendsFrom_trans below above
    | mapping document =>
      obtain ⟨_, -, shapeA⟩ := Option.map_eq_some_iff.mp shapeA
      obtain ⟨_, -, shapeB⟩ := Option.map_eq_some_iff.mp shapeB
      obtain ⟨_, -, shapeC⟩ := Option.map_eq_some_iff.mp shapeC
      have above := ((isSubclass_of_mappings shapeA.symm shapeB.symm).mp upper).2
      have below := ((isSubclass_of_mappings shapeB.symm shapeC.symm).mp lower).2
      refine .inl ((isSubclass_of_mappings shapeA.symm shapeC.symm).mpr ⟨same, ?_⟩)
      exact Mapping.descendsFrom_trans below above

/-- **With one source, what an entity provides is its own type, or that of some known subclass.** -/
theorem Descriptor.Provides.direct {known : List Descriptor} {path : String} {type : QueryType}
    (faithful : ∀ e ∈ known, Schema.describe? ⟨[source], identifier⟩ e.name = some e)
    (here : a ∈ known) (provides : a.Provides known path type) :
    a.declaredType? path = some type ∨
      ∃ e ∈ known, a.isSubclass e ∧ e.declaredType? path = some type := by
  induction provides with
  | own declared => exact .inl declared
  | @borrowed d e undeclared there subclass _ ih =>
    rcases ih there with declared | ⟨f, beyond, lower, declared⟩
    · exact .inr ⟨e, there, subclass, declared⟩
    · rcases isSubclass_trans (faithful d here) (faithful e there) (faithful f beyond) subclass lower
        with direct | same
      · exact .inr ⟨f, beyond, direct, declared⟩
      · -- the chain has come back to a class that declares nothing here
        rw [declaredType?_eq_none, ← same path, ← declaredType?_eq_none, declared] at undeclared
        cases undeclared

/-- There is an answer exactly if the entity or a known subclass of it declares the path. -/
theorem Descriptor.propertyType_isSome_iff {store : Store}
    (valid : store.Valid ⟨[source], identifier⟩) (traced : store.Traced)
    (alive : store.linkage ≠ .severed) (known : a ∈ store.descriptors) (path : String) :
    (a.propertyType path store).value.isSome ↔ (a.declaredType? path).isSome ∨
      ∃ e ∈ store.descriptors, a.isSubclass e ∧ (e.declaredType? path).isSome := by
  constructor
  · intro answered
    obtain ⟨type, value⟩ := Option.isSome_iff_exists.mp answered
    have provides := propertyType_provides traced valid known value
    rcases provides.direct valid.faithful known with declared | ⟨e, here, subclass, declared⟩
    · exact .inl (Option.isSome_iff_exists.mpr ⟨type, declared⟩)
    · exact .inr ⟨e, here, subclass, Option.isSome_iff_exists.mpr ⟨type, declared⟩⟩
  · rintro (declared | ⟨e, here, subclass, declared⟩)
    · obtain ⟨type, declared⟩ := Option.isSome_iff_exists.mp declared
      rw [propertyType_of_declared traced valid known declared]
      rfl
    · exact propertyType_of_subclass valid alive known here subclass declared

end Single

/-- **Property types are exact.** With one source, in every open session and for every known
entity, there is an answer exactly if the entity or a known subclass of it declares the path. The
answer is the entity's own type, and otherwise the own type of one of those subclasses, under a
role of that subclass if it is a collection. Which questions have been asked before plays no part
in whether there is an answer. -/
theorem Session.propertyType_exact (source : Source) (settings : Settings)
    (dialect : Function.Dialect) (sink : Sink) (requests : List Request)
    (isOpen : ((start [source] settings dialect sink).run requests).2.isOpen) :
    let store := ((start [source] settings dialect sink).run requests).2.store
    ∀ d ∈ store.descriptors, ∀ path : String,
      ((d.propertyType path store).value.isSome ↔
        (d.declaredType? path).isSome ∨
          ∃ e ∈ store.descriptors, d.isSubclass e ∧ (e.declaredType? path).isSome) ∧
      (∀ type, d.declaredType? path = some type → (d.propertyType path store).value = some type) ∧
      (∀ type, d.declaredType? path = none → (d.propertyType path store).value = some type →
        ∃ e ∈ store.descriptors, d.isSubclass e ∧ e.declaredType? path = some type ∧
          ∀ shape element key, e.declaredMember? path = some (.collection shape element key) →
            ∃ kind element key, type =
              .collection (Descriptor.roleOf e.name path) kind element key) ∧
      (∀ others : List Request,
        let other := ((start [source] settings dialect sink).run others).2
        other.isOpen → other.store.descriptors = store.descriptors →
        (d.propertyType path other.store).value.isSome =
          (d.propertyType path store).value.isSome) := by
  intro store d known path
  have fresh := start_valid [source] settings dialect sink
  have clear := start_traced [source] settings dialect sink
  have valid := run_valid fresh requests
  have traced := run_traced fresh clear requests
  have exact_here :=
    Descriptor.propertyType_isSome_iff valid traced (isOpen_iff.mp isOpen) known path
  refine ⟨exact_here, ?_, ?_, ?_⟩
  · intro type declared
    exact Descriptor.propertyType_of_declared traced valid known declared
  · intro type undeclared value
    have provides := Descriptor.propertyType_provides traced valid known value
    rcases provides.direct valid.faithful known with declared | ⟨e, here, subclass, declared⟩
    · rw [undeclared] at declared
      cases declared
    · refine ⟨e, here, subclass, declared, ?_⟩
      intro shape element key member
      exact Descriptor.declaredType?_of_collection declared member
  · intro others other alive same
    have known' : d ∈ other.store.descriptors := by
      rw [same]
      exact known
    have exact_there := Descriptor.propertyType_isSome_iff (run_valid fresh others)
      (run_traced fresh clear others) (isOpen_iff.mp alive) known' path
    rw [same] at exact_there
    rw [Bool.eq_iff_iff]
    exact exact_there.trans exact_here.symm

/-- People have no salary of their own, and get one from the employees among them. -/
theorem Session.salary_of_people :
    let store := ((start [.classes .company] {} .standard .collecting).run
      [.entity "Person" .describe, .entity "com.acme.Employee" .describe,
        .entity "Employee" .describe]).2.store
    let person : Descriptor :=
      ⟨"Person", .introspected "com.acme.Person" .company, ⟨"id", .scalar .integer⟩⟩
    person ∈ store.descriptors ∧ person.declaredType? "salary" = none ∧
      (person.propertyType "salary" store).value = some (.scalar .bigDecimal) ∧
      ∃ e ∈ store.descriptors, person.isSubclass e ∧
        e.declaredType? "salary" = some (.scalar .bigDecimal) := by
  intro store person
  have known : person ∈ store.descriptors := List.mem_of_getElem? (i := 0) rfl
  have undeclared : person.declaredType? "salary" = none := by decide +kernel
  have value : (person.propertyType "salary" store).value = some (.scalar .bigDecimal) := by
    decide +kernel
  obtain ⟨e, here, subclass, declared, -⟩ :=
    (propertyType_exact _ _ _ _ _ (by decide +kernel) person known "salary").2.2.1 _ undeclared value
  exact ⟨known, undeclared, value, e, here, subclass, declared⟩

end EntityQuery
