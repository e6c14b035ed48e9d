import EntityQuery.Store.Entity

/-!
# Looking up collection roles

A role is an owner's name, a dot and a path. Since owners' names may hold dots, the role is read
with the longest owner first, and the first owner that is an entity and declares the rest decides:
if it declares a collection there, that is the collection, and if it declares anything else, the
role is no collection. Every owner tried that is an entity becomes known.
-/

namespace EntityQuery

/-- Searches the ways to read a role for one that an owner bears out. -/
def Schema.searchRole (schema : Schema) (role : String) :
    List (String × String) → Lookup (Except SchemaError Collection.Role)
  | [] => pure (.error (.unmappedCollection role))
  | (owner, path) :: others => do
    match ← (schema.realize owner).run with
    | .error _ => schema.searchRole role others
    | .ok d =>
      match d.declaredMember? path with
      | some fact => pure (Collection.Role.ofMember role owner fact)
      | none => schema.searchRole role others

/-- The description of a role, remembered from the first time on. -/
def Schema.describeRole (schema : Schema) (role : String) : Attempt SchemaError Collection.Role :=
  ExceptT.mk fun store =>
    match store.role? role with
    | some description => ⟨.ok description, store, [.roleFound role]⟩
    | none =>
      let found := schema.searchRole role (Text.ownerPathSplits role) store
      match found.value with
      | .error e => ⟨.error e, found.store, found.events⟩
      | .ok description =>
        ⟨.ok description, found.store.addRole role description,
          found.events ++ [.roleCreated role description.kind]⟩

end EntityQuery
