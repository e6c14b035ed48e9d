import EntityQuery.Descriptor.Basic
import EntityQuery.SchemaError

/-!
# Schemas

A schema is a list of sources of metadata, asked in order, and the identifier that every entity
has. The first source that recognises an entity name gives its shape.
-/

namespace EntityQuery

/-- A source of metadata. -/
inductive Source
  | classes (model : ClassModel)
  | mapping (document : Mapping)

namespace Source

/-- The shape of an entity, if the source recognises its name. -/
def shape? : Source → String → Option Shape
  | .classes model, name => (model.entityClass? name).map (.introspected · model)
  | .mapping document, name => (document.entity? name).map fun _ => .mapped document

/-- The class model of a source that is one. -/
def model? : Source → Option ClassModel
  | .classes model => some model
  | .mapping _ => none

/-- A one-word rendering. -/
def text : Source → String
  | .classes _ => "Classes"
  | .mapping _ => "Mapping"

end Source

/-- Where descriptors come from. -/
structure Schema where
  sources : List Source
  identifier : Identifier

namespace Schema

/-- The shape that the first source to recognise the name gives it. -/
def shape? (schema : Schema) (name : String) : Option Shape :=
  schema.sources.findSome? (·.shape? name)

/-- The descriptor of an entity. -/
def describe? (schema : Schema) (name : String) : Option Descriptor :=
  (schema.shape? name).map (⟨name, ·, schema.identifier⟩)

/-- The class models among the sources. -/
def models (schema : Schema) : List ClassModel := schema.sources.filterMap (·.model?)

/-- Some class model has the class. -/
def hasClass (schema : Schema) (className : String) : Bool :=
  schema.models.any (·.hasClass className)

/-- Some class model has the field on that class. -/
def hasField (schema : Schema) (className field : String) : Bool :=
  schema.models.any (·.hasField className field)

/-- Checks that a query may construct an instance of the class from these arguments. -/
def checkInstantiation (schema : Schema) (className : String) (arguments : List QueryType) :
    Except SchemaError Unit :=
  if !schema.hasClass className then .error (.unknownClass className)
  else if schema.models.any (·.hasConstructor className arguments) then .ok ()
  else .error (.noSuchConstructor className (arguments.map (·.name)))

end Schema

end EntityQuery
