import EntityQuery.ClassModel.Basic
import EntityQuery.Mapping
import EntityQuery.Settings

/-!
# Entity descriptors

A descriptor stands for one entity. It has a name, the shape in which its source describes it, and
the identifier that all entities share. Everything here is a function of the descriptor alone: what
it declares or inherits, and which other descriptors are its subclasses. What descriptors remember
of earlier questions is kept elsewhere.

A property path is dotted. Its first segment is a member of the entity, declared or inherited. Each
further segment goes into an embedded component. There is one exception: the identifier of an
associated entity can be read without leaving the descriptor, and then the path ends.
-/

namespace EntityQuery

/-- How the source that recognised an entity describes it. -/
inductive Shape
  /-- As a class of a model. -/
  | introspected (className : String) (model : ClassModel)
  /-- As a declaration of a mapping, under the entity's own name. -/
  | mapped (mapping : Mapping)

/-- A text between double quotes. -/
def quoted (text : String) : String := "\"" ++ text ++ "\""

namespace Shape

/-- The class of an introspected entity. -/
def className? : Shape → Option String
  | .introspected className _ => some className
  | .mapped _ => none

/-- A one-line rendering. -/
def text : Shape → String
  | .introspected className _ => "Introspected \x7b class: " ++ quoted className ++ " \x7d"
  | .mapped _ => "Mapped"

end Shape

/-- An entity as a session knows it. -/
structure Descriptor where
  name : String
  shape : Shape
  identifier : Identifier

namespace Descriptor

/-! ## Members and paths -/

/-- A member of the entity itself, from the nearest declaration upward. -/
def member? (d : Descriptor) (field : String) : Option MemberFact :=
  match d.shape with
  | .introspected className model => model.inheritedFieldType? className field
  | .mapped mapping => mapping.property? d.name field

/-- A member of an embedded component. Classes inherit the members of a component, mapped
components do not. -/
def componentMember? (d : Descriptor) (component field : String) : Option MemberFact :=
  match d.shape with
  | .introspected _ model => model.inheritedFieldType? component field
  | .mapped mapping => mapping.componentProperty? component field

/-- Where a property path leads. -/
inductive Target
  | member (fact : MemberFact)
  | associationIdentifier

/-- Follows the rest of a path from a member. -/
def follow (d : Descriptor) : MemberFact → List String → Option Target
  | fact, [] => some (.member fact)
  | .embedded component, segment :: rest =>
    (d.componentMember? component segment).bind (d.follow · rest)
  | .association _, [segment] =>
    if segment = d.identifier.property then some .associationIdentifier else none
  | _, _ :: _ => none

/-- Where a property path leads from the entity. A path does not start with an empty segment. -/
def target? (d : Descriptor) (path : String) : Option Target :=
  match Text.dotted path with
  | [] => none
  | first :: rest =>
    if first.isEmpty then none else (d.member? first).bind (d.follow · rest)

/-- The member at a path. The identifier of an association is no member. -/
def declaredMember? (d : Descriptor) (path : String) : Option MemberFact :=
  match d.target? path with
  | some (.member fact) => some fact
  | _ => none

/-- The role of what stands at a path below an owner. -/
def roleOf (owner path : String) : String := owner ++ "." ++ path

/-- The type at a path that the entity itself declares or inherits. -/
def declaredType? (d : Descriptor) (path : String) : Option QueryType :=
  (d.target? path).map fun
    | .member fact => fact.typeAt (roleOf d.name path)
    | .associationIdentifier => d.identifier.type

theorem declaredMember?_eq_some {d : Descriptor} {path : String} {fact : MemberFact} :
    d.declaredMember? path = some fact ↔ d.target? path = some (.member fact) := by
  unfold declaredMember?
  split
  · next reached => rw [reached, Option.some.injEq, Option.some.injEq, Target.member.injEq]
  · next other => exact ⟨nofun, fun reached => absurd reached (other fact)⟩

theorem declaredType?_of_member {d : Descriptor} {path : String} {fact : MemberFact}
    (member : d.declaredMember? path = some fact) :
    d.declaredType? path = some (fact.typeAt (roleOf d.name path)) := by
  unfold declaredType?
  rw [declaredMember?_eq_some.mp member]
  rfl

/-- Follows the rest of a path inside components. -/
def followComponent (d : Descriptor) : MemberFact → List String → Option MemberFact
  | fact, [] => some fact
  | .embedded component, segment :: rest =>
    (d.componentMember? component segment).bind (d.followComponent · rest)
  | _, _ :: _ => none

/-- The type at a path inside a component that is reached as an element of a collection, and so
has no path from the entity. -/
def componentType? (d : Descriptor) (component path : String) : Option QueryType :=
  match Text.dotted path with
  | [] => none
  | first :: rest =>
    if first.isEmpty then none
    else ((d.componentMember? component first).bind (d.followComponent · rest)).map
      (·.typeAt (roleOf component path))

/-! ## Subclasses -/

/-- The entity `other` is a proper subclass of `d`: its class, or its declaration, descends from
that of `d` according to its own source. Entities of different sorts are unrelated, and two names
of one class are not subclasses of each other. -/
def isSubclass (d other : Descriptor) : Bool :=
  other.name != d.name &&
    match d.shape, other.shape with
    | .introspected mine _, .introspected theirs model =>
      theirs != mine && model.descendsFrom theirs mine
    | .mapped _, .mapped mapping => mapping.descendsFrom other.name d.name
    | _, _ => false

/-- The type of a reference to the entity. -/
def entityType (d : Descriptor) : QueryType := .entity d.name

end Descriptor

end EntityQuery
