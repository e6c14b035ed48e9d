import EntityQuery.Function.Vocabulary
import EntityQuery.Navigation.Segment
import EntityQuery.Collection.Role
import EntityQuery.Profile

/-!
# Requests and answers

All that a session can be asked, and all that it can answer.
-/

namespace EntityQuery

/-- A question about one entity. These can be asked of known entities even after the session is
closed. -/
inductive EntityQuestion
  | describe
  /-- The type of a path, if it has one. -/
  | propertyType (path : String)
  /-- The type of a path that has to have one. -/
  | requireType (path : String)
  | subclasses
  /-- Whether another entity is a subclass of this one. -/
  | isSubclass (other : String)
  | profile
  | runtime (operation : String)

/-- A question that only an open session can answer. -/
inductive Question
  | referencedType (entity path : String)
  | identifierType (entity : String)
  | identifierProperty (entity : String)
  | role (role : String)
  | roleRuntime (role operation : String)
  /-- A path as text, at a byte of the query. -/
  | path (root text : String) (offset : Nat)
  /-- A path as segments, after a root at a span of the query. -/
  | segments (root : String) (rootSpan : Span) (path : List Navigation.Segment)
  /-- All the paths of a query, each where it first occurs. -/
  | query (text root : String) (paths : List String)
  | function (name : String)
  | call (name : String) (count : Nat) (span : Span)
  | isWhitelisted (name : String)
  | importedName (name : String)
  | hasClass (className : String)
  | hasField (className field : String)
  | instantiate (className : String) (arguments : List QueryType)
  | sessionProfile
  | runtime (operation : String)
  /-- A second handle on the same session. -/
  | share

/-- Something asked of a session. -/
inductive Request
  | entity (name : String) (question : EntityQuestion)
  | ask (question : Question)
  /-- The warnings kept so far. -/
  | warnings
  /-- The warnings kept so far, which are then no longer kept. -/
  | takeWarnings
  | close

/-- Why a request is not met. -/
inductive Refusal
  | schema (error : SchemaError)
  /-- The operation is one that only a running system has. -/
  | unsupported (operation : String)
  /-- The session is closed. -/
  | closed

/-- A descriptor as it is shown. -/
structure DescriptorView where
  name : String
  shape : Shape
  /-- The entity was not known before. -/
  isNew : Bool
  text : String

/-- An answer. -/
inductive Answer
  | done
  | refused (refusal : Refusal)
  | descriptor (view : DescriptorView)
  | type (type : QueryType)
  | optionalType (type : Option QueryType)
  | names (names : List String)
  | truth (holds : Bool)
  | text (text : String)
  | entityProfile (profile : EntityProfile)
  | sessionProfile (profile : SessionProfile)
  | role (description : Collection.Role)
  | navigated (result : Except Diagnostic QueryType)
  | navigatedAll (results : List (Except Diagnostic QueryType))
  | function (resolution : Option Function.Resolution)
  | diagnostics (diagnostics : List Diagnostic)
  /-- The kept warnings, where warnings are kept. -/
  | warnings (kept : Option (List Diagnostic))
  /-- Whitelisted for calls, and by the settings. -/
  | whitelisted (byVocabulary bySettings : Bool)

end EntityQuery
