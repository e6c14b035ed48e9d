import EntityQuery.Navigation.Segment
import EntityQuery.Store.Role

/-!
# Navigation

A path is walked from a root entity, segment by segment. An association leads to the associated
entity. An embedded component stays with the owner and lengthens the path on it. A collection leads
to its elements: an entity element is walked like an association, and a component element, which
has no path on the owner, is walked on its class alone. Nothing else has attributes.

A walk fails at the first segment that cannot be read. A segment that is empty, not there, or asked
of something without attributes is marked itself; when it is the thing before the segment that is
not mapped, that is marked.
-/

namespace EntityQuery.Navigation

/-- Where a walk stands. -/
structure Cursor where
  /-- The entity whose metadata is being read. -/
  owner : Descriptor
  /-- The component class that paths are relative to, instead of the owner. -/
  component : Option String
  /-- The path from the owner, or from the component class, to here. -/
  relative : String
  /-- The type of what is here. -/
  current : QueryType
  /-- The span of the segment that led here. -/
  previous : Span

/-- The diagnostic of a path whose text has no alias. -/
def noAlias (offset : Nat) : Diagnostic where
  severity := .error
  message := "path has no alias"
  labels := [.primary ⟨offset, offset⟩ "expected an alias"]
  code := some "path::empty"

/-- The diagnostic of an empty segment. -/
def emptySegment (segment : Segment) : Diagnostic where
  severity := .error
  message := "path segment is empty"
  labels := [.primary segment.span "expected a property name"]
  code := some "path::empty"

/-- The diagnostic of a segment asked of something without attributes. -/
def notNavigable (segment : Segment) (target : QueryType) (previous : Span) : Diagnostic where
  severity := .error
  message :=
    "cannot dereference `" ++ segment.name ++ "` on a value of type " ++ target.name
  labels := [
    .primary segment.span "no such attribute",
    .secondary previous ("this has type " ++ target.name)]
  help := some "only entities and embedded components have attributes"
  code := some "path::not_navigable"

/-- An attempt whose schema error, if any, is a diagnostic at `span`. -/
def diagnosedAt {α : Type} (span : Span) (attempt : Attempt SchemaError α) :
    Attempt Diagnostic α :=
  attempt.adapt (·.diagnose span)

namespace Cursor

/-- The walk before its first segment. -/
def start (root : Descriptor) (span : Span) : Cursor :=
  ⟨root, none, "", root.entityType, span⟩

/-- What the next segment is an attribute of: the elements of a collection, by its role, or else
what is here. -/
def target (schema : Schema) (cursor : Cursor) : Attempt Diagnostic QueryType :=
  match cursor.current with
  | .collection role .. => do
    return (← diagnosedAt cursor.previous (schema.describeRole role)).elementType
  | current => pure current

/-- The cursor with its path brought up to the next segment, whose type is still to be read. -/
def approach (schema : Schema) (cursor : Cursor) (target : QueryType) (segment : Segment) :
    Attempt Diagnostic Cursor :=
  match target with
  | .entity name => do
    let owner ← diagnosedAt cursor.previous (schema.realize name)
    return { cursor with owner, component := none, relative := segment.name }
  | .embedded className =>
    if cursor.current.isCollection then
      return { cursor with component := some className, relative := segment.name }
    else if !cursor.relative.isEmpty then
      return { cursor with relative := cursor.relative ++ "." ++ segment.name }
    else throw (notNavigable segment target cursor.previous)
  | _ => throw (notNavigable segment target cursor.previous)

/-- The type at the path of the cursor. -/
def typeHere (cursor : Cursor) : Lookup (Option QueryType) :=
  match cursor.component with
  | some className => pure (cursor.owner.componentType? className cursor.relative)
  | none => cursor.owner.propertyType cursor.relative

/-- The name of the entity or component class that the path of the cursor is on. -/
def holder (cursor : Cursor) : String := cursor.component.getD cursor.owner.name

/-- The cursor once the type of the segment is read. -/
def settle (cursor : Cursor) (segment : Segment) : Attempt Diagnostic Cursor := do
  Lookup.emit (.segmentReached cursor.owner.name cursor.component cursor.relative)
  match ← cursor.typeHere with
  | some type => return { cursor with current := type, previous := segment.span }
  | none =>
    throw ((SchemaError.noSuchProperty cursor.holder cursor.relative).diagnose segment.span)

/-- One segment further. -/
def advance (schema : Schema) (cursor : Cursor) (segment : Segment) :
    Attempt Diagnostic Cursor := do
  if segment.name.isEmpty then throw (emptySegment segment)
  let target ← cursor.target schema
  let next ← cursor.approach schema target segment
  next.settle segment

end Cursor

/-- The type at the end of a path from a root entity, whose alias stands at `rootSpan`. -/
def resolve (schema : Schema) (root : String) (rootSpan : Span) (path : List Segment) :
    Attempt Diagnostic QueryType := do
  let owner ← diagnosedAt rootSpan (schema.realize root)
  let last ← path.foldlM (Cursor.advance schema) (Cursor.start owner rootSpan)
  return last.current

/-- The type at the end of a path given as text. Its first segment is the alias of the root
entity. -/
def resolveText (schema : Schema) (root text : String) (offset : Nat) :
    Attempt Diagnostic QueryType :=
  match segments text offset with
  | [] => throw (noAlias offset)
  | first :: rest =>
    if first.name.isEmpty then throw (noAlias offset)
    else resolve schema root first.span rest

end EntityQuery.Navigation
