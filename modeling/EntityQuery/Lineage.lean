/-!
# Lineages

Classes have superclasses and mapped entities have parents. Both are partial functions from names
to names, given by a finite table, and both may run in a circle when the metadata is broken.

A lineage is the list of names met on the way up. It is cut off after a number of steps that the
caller takes from the size of the table: a walk that long has met every name it can ever meet,
since all names on it but the last have an entry. So the cut loses nothing, and no record of
visited names is kept: a walk that keeps one, and stops at the first name that it meets again, meets
the same names and comes to each of them first in the same order (`Ascent.mem_lineage`,
`Ascent.findSome?_lineage`).
-/

namespace EntityQuery

/-- The first `limit` names from `name` upward, `name` itself first. -/
def lineage (parent : String → Option String) : (limit : Nat) → (name : String) → List String
  | 0, _ => []
  | limit + 1, name =>
    name :: match parent name with
      | none => []
      | some above => lineage parent limit above

end EntityQuery
