import EntityQuery.Descriptor.Basic

/-!
# Fixed answers

A query front end was written against live mappings and asks much that only these can know. A
static session answers such questions in one of two ways. Where a harmless constant exists, it is
given: no entity has a proxy, every column is unnamed. Where only doing something would answer, as
in loading or locking, the operation is refused by name, so that nothing is wrong in silence.
-/

namespace EntityQuery

/-- What every descriptor answers, whatever its metadata. -/
structure EntityProfile where
  entityName : String
  entityType : QueryType
  identifier : Identifier
  identifierColumns : List String
  keyColumns : List String
  rootEntityName : String
  propertySpaces : List String
  querySpaces : List String
  columns : List String
  declarer : String := "Class"
  discriminator : String := ""
  tableAlias : String := ""
  identifierSelect : String := ""
  propertySelect : String := ""
  mappedSuperclass : Option String := none
  mode : String := "Pojo"
  versionProperty : Option Nat := none
  flags : List (String × Bool)

namespace EntityProfile

/-- The traits that an entity may have in a live mapping. A static descriptor has none of them. -/
def traits : List String := [
  "has_proxy", "has_collections", "has_mutable_properties", "has_cascades",
  "has_identifier_property", "has_natural_identifier", "has_lazy_properties", "has_subclasses",
  "has_cache", "has_row_id", "is_mutable", "is_inherited", "is_abstract", "is_versioned",
  "is_batch_loadable", "is_multi_table", "is_explicit_polymorphism", "can_read_from_cache",
  "can_write_to_cache", "is_subclass_entity_name"]

/-- The fixed answers of a descriptor. It is its own root, and the one space that it touches bears
its name. -/
def ofDescriptor (d : Descriptor) : EntityProfile where
  entityName := d.name
  entityType := d.entityType
  identifier := d.identifier
  identifierColumns := ["id"]
  keyColumns := ["id"]
  rootEntityName := d.name
  propertySpaces := [d.name]
  querySpaces := [d.name]
  columns := [""]
  flags := traits.map (·, false)

end EntityProfile

/-- What every session answers. -/
structure SessionProfile where
  isOpen : Bool := true
  filterNames : List String := []
  hasFetchProfile : Bool := false

namespace Runtime

/-- The operations on an entity that are refused. -/
def entityOperations : List String := [
  "load", "multi_load", "insert", "update", "delete", "lock", "find_dirty", "find_modified",
  "database_snapshot", "current_version", "natural_identifier_properties",
  "natural_identifier_snapshot", "load_entity_id_by_natural_id", "instantiate",
  "identifier_generator", "cache_access_strategy", "natural_id_cache_access_strategy",
  "entity_tuplizer", "entity_metamodel", "concrete_proxy_class", "post_instantiate"]

/-- The operations on a collection that are refused. -/
def roleOperations : List String := [
  "initialize", "recreate", "remove", "delete_rows", "update_rows", "insert_rows",
  "read_element", "read_index", "read_key", "cache_access_strategy", "element_persister"]

/-- The operations on a session that are refused. -/
def sessionOperations : List String := [
  "open_session", "statistics", "identifier_generator", "filter_definition",
  "query_plan_cache", "named_query_repository", "fetch_profile", "entity_graph_by_name"]

/-- Why an operation is refused. -/
def refusalText (operation : String) : String :=
  operation ++ " is not supported in static validation mode"

end Runtime

end EntityQuery
