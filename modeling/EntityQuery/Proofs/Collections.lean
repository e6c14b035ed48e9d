import EntityQuery.Proofs.Roles

/-!
# Collections and their roles

A collection is typed twice: as a property, by the entity that declares it, and as a role, by the
owner that the role leads to. The type carries the role `owner.path` of the entity that declares
it, and this entity is one reading of the role. So the two agree, unless a longer owner declares
what is then left of the role; then that owner decides (`Session.collection_type_of_role`).
-/

namespace EntityQuery

/-! ## Facts and types of collections -/

/-- No element and no key is a collection. -/
theorem MemberFact.elementType_isCollection (fact : MemberFact) :
    fact.elementType.isCollection = false := by
  cases fact with
  | basic className =>
    unfold elementType QueryType.ofDeclared
    dsimp only
    split <;> rfl
  | enumeration className => rfl
  | association entityName => rfl
  | embedded className => rfl
  | collection shape element key => rfl

/-- Only a collection is typed as one. -/
theorem MemberFact.eq_collection_of_typeAt {fact : MemberFact} {site role : String}
    {kind : Collection.Kind} {element : QueryType} {key : Option QueryType}
    (typed : fact.typeAt site = .collection role kind element key) :
    ∃ shape inner innerKey, fact = .collection shape inner innerKey := by
  cases fact with
  | collection shape inner innerKey => exact ⟨shape, inner, innerKey, rfl⟩
  | basic className =>
    have other := (MemberFact.basic className).elementType_isCollection
    rw [show (MemberFact.basic className).elementType = _ from typed] at other
    cases other
  | enumeration className => cases typed
  | association entityName => cases typed
  | embedded className => cases typed

/-- The type of a role is that of the member it is made from. -/
theorem Collection.Role.collectionType_mk (role owner shape : String) (element : MemberFact)
    (key : Option MemberFact) :
    (Role.mk role owner (.ofShape shape) element key).collectionType =
      (MemberFact.collection shape element key).typeAt role := by
  cases key <;> simp [collectionType, keyType?, elementType, MemberFact.typeAt]

/-- A collection has keys if its kind is that of a map, and neither its elements nor its keys are
collections. -/
theorem MemberFact.typeAt_collection {site role shape : String} {inner : MemberFact}
    {innerKey : Option MemberFact} {kind : Collection.Kind} {element : QueryType}
    {key : Option QueryType}
    (typed : (MemberFact.collection shape inner innerKey).typeAt site =
      .collection role kind element key) :
    role = site ∧ element = inner.elementType ∧ (key.isSome ↔ kind.isMap) ∧
      element.isCollection = false ∧ ∀ k ∈ key, k.isCollection = false := by
  unfold typeAt at typed
  obtain ⟨rfl, rfl, rfl, rfl⟩ := QueryType.collection.inj typed
  refine ⟨rfl, rfl, ?_, inner.elementType_isCollection, ?_⟩
  · split <;> simp_all
  · intro k mem
    split at mem
    · cases mem
      cases innerKey with
      | none => rfl
      | some fact => exact fact.elementType_isCollection
    · cases mem

namespace Descriptor

variable {known : List Descriptor} {schema : Schema} {d e : Descriptor} {path role : String}
  {type element : QueryType} {kind : Collection.Kind} {key : Option QueryType}

/-- One entity is below another: it is a subclass of a subclass, and so on, with all of them
known. -/
def Below (known : List Descriptor) : Descriptor → Descriptor → Prop :=
  Relation.TransGen fun upper lower => lower ∈ known ∧ upper.isSubclass lower

/-- A type that is provided is declared by the entity itself, or by one below it. -/
theorem Provides.source (provides : d.Provides known path type) :
    ∃ e, e.declaredType? path = some type ∧
      (e = d ∨ d.declaredType? path = none ∧ e ∈ known ∧ Below known d e) := by
  induction provides with
  | @own d declared => exact ⟨d, declared, .inl rfl⟩
  | @borrowed d e undeclared here subclass _ ih =>
    obtain ⟨f, declared, rfl | ⟨_, there, below⟩⟩ := ih
    · exact ⟨f, declared, .inr ⟨undeclared, here, .single ⟨here, subclass⟩⟩⟩
    · exact ⟨f, declared, .inr ⟨undeclared, there, .head ⟨here, subclass⟩ below⟩⟩

/-- **A declared collection is typed from its member**, under the role of the entity. -/
theorem declaredMember?_of_collection (single : d.identifier.type.isCollection = false)
    (declared : d.declaredType? path = some (.collection role kind element key)) :
    ∃ shape inner innerKey,
      d.declaredMember? path = some (.collection shape inner innerKey) ∧
      role = roleOf d.name path ∧
      (MemberFact.collection shape inner innerKey).typeAt role =
        .collection role kind element key := by
  unfold declaredType? at declared
  unfold declaredMember?
  obtain ⟨target, reached, typed⟩ := Option.map_eq_some_iff.mp declared
  rw [reached]
  cases target with
  | associationIdentifier =>
    dsimp only at typed
    rw [typed] at single
    cases single
  | member fact =>
    obtain ⟨shape, inner, innerKey, rfl⟩ := MemberFact.eq_collection_of_typeAt typed
    have same : role = roleOf d.name path := (MemberFact.typeAt_collection typed).1
    refine ⟨shape, inner, innerKey, rfl, same, ?_⟩
    rw [same] at typed ⊢
    exact typed

/-- A collection inside a component has the role that the class of the component gives it. -/
theorem role_of_componentType? {className : String}
    (typed : d.componentType? className path = some (.collection role kind element key)) :
    role = roleOf className path := by
  unfold componentType? at typed
  split at typed
  · cases typed
  · split at typed
    · cases typed
    · obtain ⟨fact, -, typed⟩ := Option.map_eq_some_iff.mp typed
      obtain ⟨shape, inner, innerKey, rfl⟩ := MemberFact.eq_collection_of_typeAt typed
      exact (MemberFact.typeAt_collection typed).1

end Descriptor

namespace Schema

variable {schema : Schema} {store : Store} {d : Descriptor} {name path role : String}
  {fact : MemberFact} {kind : Collection.Kind} {element : QueryType} {key : Option QueryType}

theorem identifier_of_describe? (described : schema.describe? name = some d) :
    d.identifier = schema.identifier := by
  obtain ⟨shape, -, rfl⟩ := Option.map_eq_some_iff.mp described
  rfl

/-- **Where a collection type comes from**: a known entity declares the collection, and the type is
that of its member under its role. The entity is the one that was asked, or one below it. -/
theorem collection_source (valid : store.Valid schema)
    (single : schema.identifier.type.isCollection = false) (known : d ∈ store.descriptors)
    (provides : d.Provides store.descriptors path (.collection role kind element key)) :
    ∃ e ∈ store.descriptors,
      (e = d ∨ d.declaredType? path = none ∧ Descriptor.Below store.descriptors d e) ∧
      role = Descriptor.roleOf e.name path ∧
      ∃ shape inner innerKey,
        schema.memberAt? e.name path = some (.collection shape inner innerKey) ∧
        (MemberFact.collection shape inner innerKey).typeAt role =
          .collection role kind element key := by
  obtain ⟨e, declared, origin⟩ := provides.source
  have here : e ∈ store.descriptors := by
    rcases origin with rfl | ⟨_, here, _⟩
    · exact known
    · exact here
  have described := valid.faithful e here
  rw [← identifier_of_describe? described] at single
  obtain ⟨shape, inner, innerKey, member, roleEq, typed⟩ :=
    Descriptor.declaredMember?_of_collection single declared
  refine ⟨e, here, ?_, roleEq, shape, inner, innerKey, ?_, typed⟩
  · exact origin.imp_right fun below => ⟨below.1, below.2.2⟩
  · unfold memberAt?
    rw [described]
    exact member

end Schema

namespace Session

/-- **A collection type and its role agree.** Where a known entity has a collection at a path, the
type has a key exactly if its kind is that of a map, and neither the elements nor the keys are
collections. The role is that of a known entity: the one that was asked, or one below it if that one
has nothing there itself. And if no longer owner declares what is left of the role, then asking for
the role, at that time or later, gives a description with this entity as the owner and with the
same type. -/
theorem collection_type_of_role (sources : List Source) (settings : Settings)
    (dialect : Function.Dialect) (sink : Sink) (requests : List Request)
    (single : settings.identifier.type.isCollection = false) :
    let schema : Schema := ⟨sources, settings.identifier⟩
    let s := ((start sources settings dialect sink).run requests).2
    ∀ d ∈ s.store.descriptors, ∀ path role kind element key,
      (d.propertyType path s.store).value = some (.collection role kind element key) →
      ((key.isSome ↔ kind.isMap) ∧ element.isCollection = false ∧
        ∀ k ∈ key, k.isCollection = false) ∧
      ∃ e ∈ s.store.descriptors,
        (e = d ∨ d.declaredType? path = none ∧ Descriptor.Below s.store.descriptors d e) ∧
        role = Descriptor.roleOf e.name path ∧
        (schema.Foremost role e.name → ∀ more : List Request,
          let later := (s.run more).2
          later.isOpen → ∃ r, (later.step (.ask (.role role))).answer = .role r ∧
            r.owner = e.name ∧ r.collectionType = .collection role kind element key) := by
  intro schema s d known path role kind element key value
  have sound := (start_sound sources settings dialect sink).run requests
  have same : s.schema = schema := run_schema _ requests
  have provides := Descriptor.propertyType_provides sound.traced sound.valid known value
  rw [← show schema.identifier = settings.identifier from rfl, ← same] at single
  obtain ⟨e, here, origin, roleEq, shape, inner, innerKey, member, typed⟩ :=
    Schema.collection_source sound.valid single known provides
  obtain ⟨-, -, keys, elements⟩ := MemberFact.typeAt_collection typed
  refine ⟨⟨keys, elements⟩, e, here, origin, roleEq, ?_⟩
  intro foremost more later isOpen
  have decides : schema.Decides role e.name path (.collection shape inner innerKey) :=
    ⟨roleEq, same ▸ member, foremost⟩
  refine ⟨⟨role, e.name, .ofShape shape, inner, innerKey⟩, ?_, rfl, ?_⟩
  · have still : later.schema = schema := (run_schema _ more).trans same
    rw [(sound.run more).answer_role isOpen role, still, decides.decideRole_eq]
    rfl
  · rw [Collection.Role.collectionType_mk, typed]

/-- The coins in the till of a shop, as a property and as a role. -/
theorem coins_agree :
    let schema : Schema := ⟨[.mapping shop], ⟨"id", .scalar .integer⟩⟩
    let s := ((start [.mapping shop] {} .standard .collecting).run [.entity "Shop" .describe]).2
    let shopEntity : Descriptor := ⟨"Shop", .mapped shop, ⟨"id", .scalar .integer⟩⟩
    let coins : QueryType := .collection "Shop.till.coins" .map (.entity "Money")
      (some (.scalar .string))
    shopEntity ∈ s.store.descriptors ∧
      (shopEntity.propertyType "till.coins" s.store).value = some coins ∧
      schema.Foremost "Shop.till.coins" "Shop" ∧
      ∃ r, (s.step (.ask (.role "Shop.till.coins"))).answer = .role r ∧ r.owner = "Shop" ∧
        r.collectionType = coins := by
  intro schema s shopEntity coins
  have known : shopEntity ∈ s.store.descriptors := List.mem_of_getElem? (i := 0) rfl
  have value : (shopEntity.propertyType "till.coins" s.store).value = some coins := by
    decide +kernel
  have foremost := shop_decides_coins.foremost
  refine ⟨known, value, foremost, ?_⟩
  obtain ⟨-, e, -, origin, -, described⟩ := collection_type_of_role [.mapping shop] {} .standard
    .collecting [.entity "Shop" .describe] rfl shopEntity known _ _ _ _ _ value
  have own : shopEntity.declaredType? "till.coins" ≠ none := by decide +kernel
  obtain rfl : e = shopEntity := origin.resolve_right fun other => own other.1
  exact described foremost [] (by decide +kernel)

end Session

end EntityQuery
