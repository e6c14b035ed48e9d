import EntityQuery.Function.Vocabulary
import EntityQuery.Store.Role

/-!
# Sessions

A session validates queries against one schema with one set of settings. Its state is the store,
the unknown function names it has reported, and the warnings that nobody has taken yet. Where a
warning goes is the session's sink: it is kept for collection, or told in the log at once.

Closing a session severs its store. The descriptors known by then live on and still answer from
what they declare and remember.
-/

namespace EntityQuery

/-- Where warnings go. -/
inductive Sink
  | collecting | logging
  deriving DecidableEq

/-- The state of a session. -/
structure Session where
  schema : Schema
  settings : Settings
  vocabulary : Function.Vocabulary
  sink : Sink
  store : Store
  notices : Function.Notices := {}
  pending : List Diagnostic := []

namespace Session

/-- A session that has been asked nothing yet. -/
def start (sources : List Source) (settings : Settings) (dialect : Function.Dialect)
    (sink : Sink) : Session where
  schema := ⟨sources, settings.identifier⟩
  settings := settings
  vocabulary := .ofSettings dialect settings
  sink := sink
  store := { linkage := .ofPolicy settings.subclasses }

/-- The session has not been closed. -/
def isOpen (s : Session) : Bool := s.store.linkage != .severed

/-- The known entities in the order of creation, with the number of their remembered paths. -/
def knownEntities (s : Session) : List (String × Nat) :=
  s.store.known.map fun k => (k.name, k.memo.length)

/-- The unknown function names reported by an open session, in order. -/
def warnedNames? (s : Session) : Option (List String) :=
  if s.isOpen then some s.notices.sorted else none

/-- A one-line rendering of an open session. -/
def text? (s : Session) : Option String :=
  if s.isOpen then
    let sources := ", ".intercalate (s.schema.sources.map (·.text))
    some ("SchemaRegistry \x7b sources: [" ++ sources ++
      s!"], entities: {s.store.known.length}, collections: {s.store.roles.length} \x7d")
  else none

/-- Takes note that a function name was used, and sends the warning that this calls for. -/
def useFunction (s : Session) (name : String) : Session × List Event :=
  match s.notices.use s.vocabulary name with
  | (none, notices) => ({ s with notices }, [])
  | (some warning, notices) =>
    match s.sink with
    | .collecting => ({ s with notices, pending := s.pending ++ [warning] }, [])
    | .logging => ({ s with notices }, [.warned warning])

end Session

end EntityQuery
