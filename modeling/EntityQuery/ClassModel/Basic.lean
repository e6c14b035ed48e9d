import EntityQuery.Lineage
import EntityQuery.Member
import EntityQuery.Table

/-!
# Class models

A class model holds what is known about classes: their fields, constructors and superclasses, and
under which names some of them are entities. Classes are added one by one. A class that is added
again replaces the earlier facts; names of entities are only ever gained or redirected, never
lost, so an entity name always leads to a class that the model has.

A model may know that a field exists without knowing its type. Such a field is *withheld*: it
counts as declared, but a search for the field's type goes on to the superclass.
-/

namespace EntityQuery

/-- What is known about one class. -/
structure ClassFact where
  /-- The qualified name. -/
  name : String
  /-- The entity name, if the class is an entity. -/
  entityName : Option String := none
  superclass : Option String := none
  fields : Table MemberFact := {}
  /-- The parameter types of each constructor. -/
  constructors : List (List QueryType) := []

namespace ClassFact

/-- The class as a subclass of another; a later superclass replaces an earlier one. -/
def extending (fact : ClassFact) (superclass : String) : ClassFact :=
  { fact with superclass := some superclass }

/-- The class as an entity under the last segment of its qualified name. -/
def asEntity (fact : ClassFact) : ClassFact :=
  { fact with entityName := some (Text.simpleName fact.name) }

/-- The class as an entity under a name of its own. -/
def asNamedEntity (fact : ClassFact) (entityName : String) : ClassFact :=
  { fact with entityName := some entityName }

/-- Arguments fit a constructor: there are as many as parameters, and each is compatible. -/
def argumentsFit (parameters arguments : List QueryType) : Bool :=
  parameters.length = arguments.length &&
    (parameters.zip arguments).all fun pair => pair.2.compatible pair.1

/-- Some constructor of the class takes the arguments. -/
def accepts (fact : ClassFact) (arguments : List QueryType) : Bool :=
  fact.constructors.any (argumentsFit · arguments)

end ClassFact

/-- A model of a set of classes. -/
structure ClassModel where
  classes : Table ClassFact := {}
  /-- From entity names, simple and qualified, to class names. -/
  entityNames : Table String := {}
  /-- Class and field of each field whose type is not disclosed. -/
  withheld : List (String × String) := []

namespace ClassModel

/-- The model without classes. -/
def empty : ClassModel := {}

/-- The entity names once a class is added: an entity is known under its entity name and under
its class name. -/
def registerEntity (names : Table String) (fact : ClassFact) : Table String :=
  match fact.entityName with
  | none => names
  | some entityName => (names.insert entityName fact.name).insert fact.name fact.name

/-- The model with one more class. -/
def add (model : ClassModel) (fact : ClassFact) : ClassModel :=
  { model with
    classes := model.classes.insert fact.name fact
    entityNames := registerEntity model.entityNames fact }

/-- The model of some classes, added one after the other. -/
def ofFacts (facts : List ClassFact) : ClassModel := facts.foldl add empty

/-- The model with the type of one field undisclosed. -/
def withhold (model : ClassModel) (className field : String) : ClassModel :=
  { model with withheld := (className, field) :: model.withheld }

/-- The model has the class. -/
def hasClass (model : ClassModel) (className : String) : Bool :=
  model.classes.contains className

/-- The class itself declares the field, with or without a type. -/
def hasField (model : ClassModel) (className field : String) : Bool :=
  (model.classes.get? className).any (·.fields.contains field)

/-- The class has a constructor that takes the arguments. -/
def hasConstructor (model : ClassModel) (className : String) (arguments : List QueryType) :
    Bool :=
  (model.classes.get? className).any (·.accepts arguments)

/-- The class of an entity, by entity name or class name. -/
def entityClass? (model : ClassModel) (entityName : String) : Option String :=
  model.entityNames.get? entityName

/-- The type of a field that the class itself declares, if it is disclosed. -/
def fieldType? (model : ClassModel) (className field : String) : Option MemberFact :=
  if model.withheld.contains (className, field) then none
  else (model.classes.get? className).bind (·.fields.get? field)

/-- The direct superclass. It need not be a class of the model. -/
def superclass? (model : ClassModel) (className : String) : Option String :=
  (model.classes.get? className).bind (·.superclass)

/-- The class and its superclasses, nearest first. -/
def ancestry (model : ClassModel) (className : String) : List String :=
  lineage model.superclass? (model.classes.size + 1) className

/-- The type of a field, if the class itself has the field and discloses it. -/
def disclosed? (model : ClassModel) (className field : String) : Option MemberFact :=
  if model.hasField className field then model.fieldType? className field else none

/-- The type of a field, from the nearest class that has and discloses it. -/
def inheritedFieldType? (model : ClassModel) (className field : String) : Option MemberFact :=
  (model.ancestry className).findSome? (model.disclosed? · field)

/-- The class descends from `ancestor`, directly or through others. On a circle a class descends
from itself. -/
def descendsFrom (model : ClassModel) (className ancestor : String) : Bool :=
  (model.superclass? className).any fun above => (model.ancestry above).contains ancestor

end ClassModel

end EntityQuery
