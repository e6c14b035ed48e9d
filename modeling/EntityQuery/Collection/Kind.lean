import EntityQuery.Text.Blank
import EntityQuery.Text.Cut

/-!
# Kinds of collection

A collection-valued member is declared with a shape token such as `java.util.SortedSet<Item>`.
Only its simple name counts: generic arguments, package and surrounding white space are ignored.
A shape that is not in the table is a bag, the kind that promises nothing.
-/

namespace EntityQuery.Collection

/-- What a collection promises about order, duplicates and addressing. -/
inductive Kind
  | list | set | sortedSet | map | sortedMap | bag
  deriving DecidableEq

namespace Kind

/-- Every kind. -/
def all : List Kind := [.list, .set, .sortedSet, .map, .sortedMap, .bag]

/-- The name under which a kind appears in messages. -/
def name : Kind → String
  | .list => "List"
  | .set => "Set"
  | .sortedSet => "SortedSet"
  | .map => "Map"
  | .sortedMap => "SortedMap"
  | .bag => "Bag"

/-- The simple shape names and the kinds they declare. A plain `Set` may be mapped with an order
of its own; the token does not say so, and it stays a set. -/
def declaredShapes : List (String × Kind) := [
  ("Set", .set), ("HashSet", .set), ("LinkedHashSet", .set),
  ("SortedSet", .sortedSet), ("NavigableSet", .sortedSet), ("TreeSet", .sortedSet),
  ("List", .list), ("ArrayList", .list), ("LinkedList", .list), ("SortedList", .list),
  ("Map", .map), ("HashMap", .map), ("LinkedHashMap", .map),
  ("SortedMap", .sortedMap), ("NavigableMap", .sortedMap), ("TreeMap", .sortedMap)]

/-- The simple name in a shape token. Generic arguments go first, since they may hold dots and
white space of their own. -/
def shapeKey (token : String) : String :=
  String.ofList (Text.afterLast '.' (Text.trim (Text.beforeFirst '<' token.toList)))

/-- The kind that a shape token declares. -/
def ofShape (token : String) : Kind :=
  (declaredShapes.lookup (shapeKey token)).getD .bag

/-- The collection takes each element to a key. -/
def isMap : Kind → Bool
  | .map | .sortedMap => true
  | _ => false

/-- Single elements can be addressed, by position or by key. -/
def isIndexed : Kind → Bool
  | .list | .map | .sortedMap => true
  | _ => false

end Kind

end EntityQuery.Collection
