import EntityQuery.Member
import EntityQuery.SchemaError

/-!
# Collection roles

A role names a collection as seen from outside: the entity that owns it, and the path to it. The
description of a role is made from the member fact at the end of that path, and answers what its
elements, keys and indices are.
-/

namespace EntityQuery.Collection

/-- A described role. Element and key are facts; their types are read off on demand. -/
structure Role where
  role : String
  owner : String
  kind : Kind
  element : MemberFact
  key : Option MemberFact

namespace Role

/-- The description of `role` from the member that `owner` declares there. -/
def ofMember (role owner : String) : MemberFact → Except SchemaError Role
  | .collection shape element key => .ok ⟨role, owner, .ofShape shape, element, key⟩
  | _ => .error (.notACollection role)

/-- The type of the elements. -/
def elementType (r : Role) : QueryType := r.element.elementType

/-- The type of the keys, for maps. -/
def keyType? (r : Role) : Option QueryType :=
  if r.kind.isMap then some ((r.key.map MemberFact.elementType).getD .unknown) else none

/-- The type of what addresses an element: a position in a list, a key in a map. -/
def indexType? (r : Role) : Option QueryType :=
  match r.kind with
  | .list => some (.scalar .integer)
  | .map | .sortedMap => r.keyType?
  | _ => none

/-- The entity that the elements refer to. -/
def elementEntity? (r : Role) : Option String := r.elementType.entityName?

/-- The type of the collection as a whole. -/
def collectionType (r : Role) : QueryType :=
  .collection r.role r.kind r.elementType r.keyType?

/-- The elements are entities. -/
def isOneToMany (r : Role) : Bool := r.elementType.isEntity

/-! The elements of a static collection are never shared, and the collection itself is never
written, cached or loaded later. -/

/-- No collection is taken to share its elements with another owner. -/
def isManyToMany (_ : Role) : Bool := false

/-- No element is deleted for having lost its owner. -/
def hasOrphanDelete (_ : Role) : Bool := false

/-- No collection is the far side of an association. -/
def isInverse (_ : Role) : Bool := false

/-- No collection is loaded later than its owner. -/
def isLazy (_ : Role) : Bool := false

/-- No collection can be changed. -/
def isMutable (_ : Role) : Bool := false

/-- No collection is cached. -/
def hasCache (_ : Role) : Bool := false

/-- The tables that the collection touches, named by the role itself. -/
def spaces (r : Role) : List String := [r.role]

/-- The columns of the elements, of which nothing is known. -/
def elementColumns (_ : Role) : List String := [""]

/-- The columns of the index, if elements can be addressed. -/
def indexColumns (r : Role) : List String := if r.kind.isIndexed then [""] else []

end Role

end EntityQuery.Collection
