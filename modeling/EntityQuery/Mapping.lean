import EntityQuery.Lineage
import EntityQuery.Member
import EntityQuery.Table

/-!
# Mappings

A mapping declares entities and components directly, with their properties, instead of describing
classes. An entity may have a parent whose properties it inherits; a component has none. The later
of two declarations under one name replaces the earlier entirely.
-/

namespace EntityQuery

/-- A declared entity. -/
structure MappedEntity where
  name : String
  parent : Option String := none
  properties : Table MemberFact := {}

/-- Declared entities and components. -/
structure Mapping where
  entities : Table MappedEntity := {}
  components : Table (Table MemberFact) := {}

namespace Mapping

/-- The mapping that declares nothing. -/
def empty : Mapping := {}

/-- The mapping with one more entity. -/
def addEntity (mapping : Mapping) (entity : MappedEntity) : Mapping :=
  { mapping with entities := mapping.entities.insert entity.name entity }

/-- The mapping with one more component. -/
def addComponent (mapping : Mapping) (name : String) (properties : Table MemberFact) : Mapping :=
  { mapping with components := mapping.components.insert name properties }

/-- The declaration of an entity. -/
def entity? (mapping : Mapping) (name : String) : Option MappedEntity :=
  mapping.entities.get? name

/-- The parent of an entity. It need not be declared itself. -/
def parent? (mapping : Mapping) (name : String) : Option String :=
  (mapping.entity? name).bind (·.parent)

/-- The entity and its parents, nearest first. -/
def ancestry (mapping : Mapping) (name : String) : List String :=
  lineage mapping.parent? (mapping.entities.size + 1) name

/-- A property that the entity itself declares. -/
def ownProperty? (mapping : Mapping) (entity property : String) : Option MemberFact :=
  (mapping.entity? entity).bind (·.properties.get? property)

/-- A property of the entity, from the nearest entity upward that declares it. -/
def property? (mapping : Mapping) (entity property : String) : Option MemberFact :=
  (mapping.ancestry entity).findSome? (mapping.ownProperty? · property)

/-- A property of a component. -/
def componentProperty? (mapping : Mapping) (component property : String) : Option MemberFact :=
  (mapping.components.get? component).bind (·.get? property)

/-- The entity descends from `ancestor`, directly or through others. On a circle an entity
descends from itself. -/
def descendsFrom (mapping : Mapping) (entity ancestor : String) : Bool :=
  (mapping.parent? entity).any fun above => (mapping.ancestry above).contains ancestor

end Mapping

end EntityQuery
