import EntityQuery.Store.Lookup

/-!
# Looking up entities and their properties

An entity is looked up by name and made known if a source recognises it. The type of a property
path is taken, in this order, from what the entity remembers, from what it declares or inherits,
and from the first of its subclasses that has an answer; a subclass answers from its own memory or
its own declarations, and never passes the question on. Whoever found an answer remembers it; that
there is none is not remembered, since a subclass may turn up later.
-/

namespace EntityQuery

/-- The events of making a descriptor known: its creation, then the edges recorded between it and
each known descriptor, first from the known one and then from the new one. -/
def Store.creationEvents (store : Store) (d : Descriptor) : List Event :=
  let edge (upper lower : Descriptor) : List Event :=
    if upper.isSubclass lower then [.subclassRecorded upper.name lower.name] else []
  .entityCreated d.name d.shape ::
    match store.linkage with
    | .recorded => store.descriptors.flatMap fun other => edge other d ++ edge d other
    | _ => []

/-- The descriptor of an entity, made known if it is not yet. -/
def Schema.realize (schema : Schema) (name : String) : Attempt SchemaError Descriptor :=
  ExceptT.mk fun store =>
    match store.find? name with
    | some known => ⟨.ok known.descriptor, store, [.entityFound name]⟩
    | none =>
      match schema.describe? name with
      | none => ⟨.error (.unmappedEntity name), store, []⟩
      | some d => ⟨.ok d, store.add d, store.creationEvents d⟩

/-- What an entity answers without asking its subclasses: what it remembers, or else what it
declares or inherits. -/
def Store.ownType? (store : Store) (d : Descriptor) (path : String) : Option QueryType :=
  (store.memo? d.name path).or (d.declaredType? path)

/-- The first of some descriptors that has an answer of its own, and the answer. -/
def Store.firstAnswer? (store : Store) (path : String) (ds : List Descriptor) :
    Option (Descriptor × QueryType) :=
  ds.findSome? fun d => (store.ownType? d path).map (d, ·)

/-- The type of a property path of a known entity. -/
def Descriptor.propertyType (d : Descriptor) (path : String) : Lookup (Option QueryType) :=
  fun store =>
    match store.memo? d.name path with
    | some type => ⟨some type, store, []⟩
    | none =>
      match d.declaredType? path with
      | some type =>
        ⟨some type, store.remember d.name path type, [.propertyResolved d.name path type]⟩
      | none =>
        match store.firstAnswer? path (store.subclasses d) with
        | some (subclass, type) =>
          ⟨some type, (store.remember subclass.name path type).remember d.name path type,
            [.propertyResolved d.name path type]⟩
        | none => ⟨none, store, [.propertyMissing d.name path]⟩

/-- The type of a property path that has to have one. -/
def Descriptor.requireType (d : Descriptor) (path : String) : Attempt SchemaError QueryType := do
  match ← d.propertyType path with
  | some type => return type
  | none => throw (.noSuchProperty d.name path)

/-- The type of a property path of an entity given by name. -/
def Schema.referencedType (schema : Schema) (name path : String) :
    Attempt SchemaError QueryType := do
  (← schema.realize name).requireType path

end EntityQuery
