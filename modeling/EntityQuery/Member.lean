import EntityQuery.QueryType

/-!
# Member facts

A member fact says how a field of a class, or a property of a mapping, is declared. Its type is
read off the fact alone; anything that cannot be classified is `unknown` and never an error.

A collection is typed with the role under which it was reached. Its elements and keys carry no
role, and a collection inside a collection is not navigable, so it is `unknown` there.
-/

namespace EntityQuery

/-- The declaration of a field or mapped property. -/
inductive MemberFact
  /-- A basic value, by class name. -/
  | basic (className : String)
  /-- A value of an enumeration, by class name. -/
  | enumeration (className : String)
  /-- A reference to one entity, by entity name. -/
  | association (entityName : String)
  /-- An embedded component, by class name. -/
  | embedded (className : String)
  /-- A collection, by shape token, with a fact about its keys if it is declared as a map. -/
  | collection (shape : String) (element : MemberFact) (key : Option MemberFact)

namespace MemberFact

/-- The type of a member that stands as an element or a key of a collection. -/
def elementType : MemberFact → QueryType
  | .basic className => .ofDeclared className
  | .enumeration className => .enumeration className
  | .association entityName => .entity entityName
  | .embedded className => .embedded className
  | .collection .. => .unknown

/-- The type of a member reached under `role`. A map whose keys are not described has keys of
unknown type; any other collection has no keys, whatever the fact says. -/
def typeAt (role : String) : MemberFact → QueryType
  | .collection shape element key =>
    let kind := Collection.Kind.ofShape shape
    .collection role kind element.elementType
      (if kind.isMap then some (key.elim .unknown elementType) else none)
  | fact => fact.elementType

end MemberFact

end EntityQuery
