import EntityQuery.Diagnostic.Basic

/-!
# Schema errors

The ways in which a name, a role, a path or an instantiation fails to make sense against a schema.
An error carries the offending names and no position; `diagnose` turns it into a diagnostic at the
span of the reference that failed.
-/

namespace EntityQuery

/-- A reference that the schema does not support. -/
inductive SchemaError
  /-- No source recognises the entity name. -/
  | unmappedEntity (name : String)
  /-- No way to read the role gives an owner that declares the rest of it. -/
  | unmappedCollection (role : String)
  /-- The role names a member that is not a collection. -/
  | notACollection (role : String)
  /-- Neither the entity nor a known subclass has the property. -/
  | noSuchProperty (entity path : String)
  /-- No class model defines the class. -/
  | unknownClass (name : String)
  /-- The class has no constructor for these argument types. -/
  | noSuchConstructor (className : String) (arguments : List String)
  deriving DecidableEq

namespace SchemaError

/-- The wording of an error. -/
def message : SchemaError → String
  | .unmappedEntity name => name ++ " is not mapped"
  | .unmappedCollection role => role ++ " is not a mapped collection role"
  | .notACollection role => role ++ " is not collection-valued"
  | .noSuchProperty entity path => entity ++ " has no mapped " ++ path
  | .unknownClass name => name ++ " is not a known class"
  | .noSuchConstructor className arguments =>
    className ++ " has no constructor accepting (" ++ ", ".intercalate arguments ++ ")"

/-- The name, role or path that is to blame. -/
def subject : SchemaError → String
  | .unmappedEntity name => name
  | .unmappedCollection role => role
  | .notACollection role => role
  | .noSuchProperty _ path => path
  | .unknownClass name => name
  | .noSuchConstructor className _ => className

/-- The stable code of an error. -/
def code : SchemaError → String
  | .unmappedEntity _ => "schema::unmapped_entity"
  | .unmappedCollection _ => "schema::unmapped_collection"
  | .notACollection _ => "schema::not_a_collection"
  | .noSuchProperty .. => "schema::no_such_property"
  | .unknownClass _ => "schema::unknown_class"
  | .noSuchConstructor .. => "schema::no_such_constructor"

/-- What the label on the failing reference says. -/
def labelText : SchemaError → String
  | .unmappedEntity _ => "unmapped entity"
  | .unmappedCollection _ => "unmapped collection"
  | .notACollection _ => "not a collection"
  | .noSuchProperty _ path => "no property " ++ path
  | .unknownClass _ => "unknown class"
  | .noSuchConstructor .. => "no matching constructor"

/-- Advice on how to mend the reference, where there is any. -/
def help? : SchemaError → Option String
  | .unmappedEntity _ =>
    some "check the entity name or make sure the class is annotated as an entity"
  | .noSuchConstructor .. =>
    some "the instantiated class needs a constructor with exactly these argument types"
  | _ => none

/-- The diagnostic of an error at the reference that failed. -/
def diagnose (e : SchemaError) (span : Span) : Diagnostic where
  severity := .error
  message := e.message
  labels := [.primary span e.labelText]
  help := e.help?
  code := some e.code

end SchemaError

end EntityQuery
