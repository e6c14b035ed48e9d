import EntityQuery.Navigation.Walk
import EntityQuery.Session.Basic
import EntityQuery.Session.Request

/-!
# Steps of a session

One request takes a session to its next state, with an answer and the events on the way. A run is
a list of requests, one after the other.
-/

namespace EntityQuery

/-- What comes of a request. -/
structure Reply where
  answer : Answer
  session : Session
  events : List Event

/-- An attempt whose failure is an answer too. -/
def Attempt.orRefuse (attempt : Attempt Refusal Answer) : Lookup Answer := do
  match ← attempt.run with
  | .ok answer => return answer
  | .error refusal => return .refused refusal

/-- An attempt whose schema error is a reason to refuse. -/
def Attempt.orSchemaError {α : Type} (attempt : Attempt SchemaError α) : Attempt Refusal α :=
  attempt.adapt .schema

/-- Refuses an operation, and tells so. -/
def refuseOperation (operation : String) : Attempt Refusal Answer := do
  Lookup.emit (.runtimeInvoked operation)
  throw (.unsupported operation)

namespace Session

/-- The known entity of a name. -/
def knownEntity? (name : String) : Lookup (Option Known) := Lookup.read (·.find? name)

/-- The names of the subclasses that a descriptor sees. -/
def subclassNames (d : Descriptor) : Lookup (List String) :=
  Lookup.read fun store => (store.subclasses d).map (·.name)

/-- The entity of a name: made known by an open session, and among those kept by a closed one. -/
def entity (s : Session) (name : String) : Attempt Refusal Descriptor :=
  if s.isOpen then (s.schema.realize name).orSchemaError
  else do
    match ← knownEntity? name with
    | some known => return known.descriptor
    | none => throw .closed

/-- The view of a descriptor that has just been looked up. -/
def viewOf (d : Descriptor) (isNew : Bool) : Lookup Answer :=
  Lookup.read fun store =>
    let known := (store.find? d.name).getD { descriptor := d }
    .descriptor ⟨d.name, d.shape, isNew, known.text⟩

/-- Answers a question about an entity. -/
def answerEntity (s : Session) (name : String) (question : EntityQuestion) :
    Attempt Refusal Answer := do
  let isNew := (s.store.find? name).isNone
  let d ← s.entity name
  match question with
  | .describe => viewOf d isNew
  | .propertyType path => return .optionalType (← d.propertyType path)
  | .requireType path => return .type (← (d.requireType path).orSchemaError)
  | .subclasses => return .names (← subclassNames d)
  | .isSubclass other => return .truth (d.isSubclass (← s.entity other))
  | .profile => return .entityProfile (.ofDescriptor d)
  | .runtime operation => refuseOperation operation

/-- Answers a question that reads or adds to the store. -/
def answer (s : Session) : Question → Attempt Refusal Answer
  | .referencedType entity path =>
    return .type (← (s.schema.referencedType entity path).orSchemaError)
  | .identifierType entity => do
    let _ ← (s.schema.realize entity).orSchemaError
    return .type s.settings.identifier.type
  | .identifierProperty entity => do
    let _ ← (s.schema.realize entity).orSchemaError
    return .text s.settings.identifier.property
  | .role role => return .role (← (s.schema.describeRole role).orSchemaError)
  | .roleRuntime role operation => do
    let _ ← (s.schema.describeRole role).orSchemaError
    refuseOperation operation
  | .path root text offset =>
    .navigated <$> (Navigation.resolveText s.schema root text offset).run
  | .segments root rootSpan path =>
    .navigated <$> (Navigation.resolve s.schema root rootSpan path).run
  | .query text root paths =>
    .navigatedAll <$> paths.mapM fun path =>
      let offset := (Text.byteOffset? path.toList text.toList).getD 0
      (Navigation.resolveText s.schema root path offset).run
  | .function name => return .function (s.vocabulary.resolve name)
  | .call name count span => return .diagnostics (s.vocabulary.checkCall name count span)
  | .isWhitelisted name =>
    return .whitelisted (s.vocabulary.isWhitelisted name) (s.settings.isWhitelisted name)
  | .importedName name => return .text name
  | .hasClass className => return .truth (s.schema.hasClass className)
  | .hasField className field => return .truth (s.schema.hasField className field)
  | .instantiate className arguments =>
    match s.schema.checkInstantiation className arguments with
    | .ok () => return .done
    | .error e => throw (.schema e)
  | .sessionProfile => return .sessionProfile {}
  | .runtime operation => refuseOperation operation
  | .share => return .done

/-- The function name that a question uses, if any. -/
def usedFunction? : Question → Option String
  | .function name => some name
  | .call name _ _ => some name
  | _ => none

/-- Runs a look-up on the store of the session. -/
def look (s : Session) (attempt : Attempt Refusal Answer) : Reply :=
  let outcome := attempt.orRefuse s.store
  ⟨outcome.value, { s with store := outcome.store }, outcome.events⟩

/-- Answers a question, having taken note of the function name it uses. -/
def ask (s : Session) (question : Question) : Reply :=
  if !s.isOpen then ⟨.refused .closed, s, []⟩
  else match usedFunction? question with
    | none => s.look (s.answer question)
    | some name =>
      let used := s.useFunction name
      let reply := used.1.look (used.1.answer question)
      { reply with events := used.2 ++ reply.events }

/-- The warnings that are kept, where they are kept. -/
def kept? (s : Session) : Option (List Diagnostic) :=
  match s.sink with
  | .collecting => some s.pending
  | .logging => none

/-- Meets a request. -/
def step (s : Session) : Request → Reply
  | .entity name question => s.look (s.answerEntity name question)
  | .ask question => s.ask question
  | .warnings => ⟨.warnings s.kept?, s, []⟩
  | .takeWarnings => ⟨.warnings s.kept?, { s with pending := [] }, []⟩
  | .close => ⟨.done, { s with store := s.store.sever }, []⟩

/-- Meets some requests in order. -/
def run (s : Session) : List Request → List Answer × Session
  | [] => ([], s)
  | request :: requests =>
    let reply := s.step request
    let rest := reply.session.run requests
    (reply.answer :: rest.1, rest.2)

end Session

end EntityQuery
