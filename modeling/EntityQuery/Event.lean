import EntityQuery.Descriptor.Basic
import EntityQuery.Diagnostic.Basic

/-!
# Events

What a session does on the way to an answer is told as events. They are for a log and have no
bearing on any answer.
-/

namespace EntityQuery

/-- How much an event matters. -/
inductive Level
  | trace | debug | warn | error
  deriving DecidableEq

namespace Level

/-- The name of a level in a log. -/
def name : Level → String
  | .trace => "TRACE"
  | .debug => "DEBUG"
  | .warn => "WARN"
  | .error => "ERROR"

/-- The position of a level, least important first. -/
def rank : Level → Nat
  | .trace => 0
  | .debug => 1
  | .warn => 2
  | .error => 3

end Level

/-- Something that happened. -/
inductive Event
  /-- A known entity was asked for. -/
  | entityFound (entity : String)
  /-- A descriptor was made. -/
  | entityCreated (entity : String) (shape : Shape)
  /-- A new descriptor gave rise to a subclass edge. -/
  | subclassRecorded (entity subclass : String)
  /-- A path that was not remembered got a type. -/
  | propertyResolved (entity path : String) (type : QueryType)
  /-- A path has no type so far. -/
  | propertyMissing (entity path : String)
  /-- A known role was asked for. -/
  | roleFound (role : String)
  /-- A role was described. -/
  | roleCreated (role : String) (kind : Collection.Kind)
  /-- A segment of a navigation is about to be read. -/
  | segmentReached (entity : String) (component : Option String) (path : String)
  /-- A warning went to the log. -/
  | warned (warning : Diagnostic)
  /-- An operation was asked for that only a running system has. -/
  | runtimeInvoked (operation : String)

namespace Event

/-- How much an event matters. -/
def level : Event → Level
  | .entityFound _ | .propertyResolved .. | .propertyMissing .. | .roleFound _
  | .segmentReached .. => .trace
  | .entityCreated .. | .subclassRecorded .. | .roleCreated .. => .debug
  | .warned _ => .warn
  | .runtimeInvoked _ => .error

/-- The wording of an event. -/
def message : Event → String
  | .entityFound _ => "entity descriptor cache hit"
  | .entityCreated .. => "created entity descriptor"
  | .subclassRecorded .. => "recorded subclass"
  | .propertyResolved .. => "resolved property"
  | .propertyMissing .. => "property not found"
  | .roleFound _ => "collection descriptor cache hit"
  | .roleCreated .. => "created collection descriptor"
  | .segmentReached .. => "resolving path segment"
  | .warned warning => warning.message
  | .runtimeInvoked _ => "runtime operation invoked on a static descriptor"

/-- A component in a log: there is one, or there is none. -/
def componentText : Option String → String
  | none => "None"
  | some component => "Some(" ++ quoted component ++ ")"

/-- The particulars of an event, by name. -/
def fields : Event → List (String × String)
  | .entityFound entity => [("entity", entity)]
  | .entityCreated entity shape => [("entity", entity), ("shape", shape.text)]
  | .subclassRecorded entity subclass => [("entity", entity), ("subclass", subclass)]
  | .propertyResolved entity path type =>
    [("entity", entity), ("path", path), ("ty", type.name)]
  | .propertyMissing entity path => [("entity", entity), ("path", path)]
  | .roleFound role => [("role", role)]
  | .roleCreated role kind => [("role", role), ("kind", kind.name)]
  | .segmentReached entity component path =>
    [("entity", entity), ("component", componentText component), ("path", path)]
  | .warned warning => [("code", warning.code.getD "")]
  | .runtimeInvoked operation => [("operation", operation)]

/-- The event belongs in a log that starts at `threshold`. -/
def reaches (event : Event) (threshold : Level) : Bool := threshold.rank ≤ event.level.rank

end Event

end EntityQuery
