import EntityQuery.Collection.Role
import EntityQuery.Descriptor.Schema

/-!
# The store

A session makes descriptors when they are first asked for, and remembers what it has found out:
which entities are known, in the order of creation, which property paths of each have got a type,
and which roles have been described. Nothing is ever forgotten. A type that is remembered takes the
place of one that the path has already, but look-ups never replace a type by a different one.

A store also says how subclasses are found. With linkage `onDemand` they are the known descriptors
that are subclasses by then; with `recorded` they are edges that were written down when
descriptors were created; once `severed`, no descriptor sees any subclass.
-/

namespace EntityQuery

/-- How descriptors see their subclasses. -/
inductive Linkage
  | onDemand | recorded | severed
  deriving DecidableEq

/-- The linkage that a policy asks for. -/
def Linkage.ofPolicy : SubclassPolicy → Linkage
  | .onDemand => .onDemand
  | .atCreation => .recorded

/-- A known entity: its descriptor, the types of its remembered paths in the order of the paths, and
its recorded subclasses in the order of creation. -/
structure Known where
  descriptor : Descriptor
  memo : List (String × QueryType) := []
  recorded : List Descriptor := []

namespace Known

/-- The name of the entity. -/
def name (k : Known) : String := k.descriptor.name

/-- The remembered type of a path. -/
def memo? (k : Known) (path : String) : Option QueryType := k.memo.lookup path

/-- Remembers the type of a path, in place of one that the path has already. -/
def remember (k : Known) (path : String) (type : QueryType) : Known :=
  { k with memo := Table.place path type k.memo }

/-- A one-line rendering. -/
def text (k : Known) : String :=
  "EntityDescriptor \x7b name: " ++ quoted k.name ++ ", shape: " ++ k.descriptor.shape.text ++
    s!", cached_paths: {k.memo.length} \x7d"

/-- Records `d` as a subclass if it is one. -/
def link (k : Known) (d : Descriptor) : Known :=
  if k.descriptor.isSubclass d then { k with recorded := k.recorded ++ [d] } else k

end Known

/-- What a session has found out. -/
structure Store where
  linkage : Linkage
  known : List Known := []
  roles : List (String × Collection.Role) := []

namespace Store

/-- The known entity of a name. -/
def find? (store : Store) (name : String) : Option Known :=
  store.known.find? (·.name = name)

/-- The remembered type of a path of an entity. -/
def memo? (store : Store) (name path : String) : Option QueryType :=
  (store.find? name).bind (·.memo? path)

/-- Remembers the type of a path of an entity. -/
def remember (store : Store) (name path : String) (type : QueryType) : Store :=
  { store with
    known := store.known.map fun k => if k.name = name then k.remember path type else k }

/-- The known descriptors, in the order of creation. -/
def descriptors (store : Store) : List Descriptor := store.known.map (·.descriptor)

/-- The subclasses that a descriptor sees. -/
def subclasses (store : Store) (d : Descriptor) : List Descriptor :=
  match store.linkage with
  | .onDemand => store.descriptors.filter d.isSubclass
  | .recorded => ((store.find? d.name).map (·.recorded)).getD []
  | .severed => []

/-- Makes a descriptor known. Where edges are recorded, each known descriptor and the new one look
at each other. -/
def add (store : Store) (d : Descriptor) : Store :=
  match store.linkage with
  | .recorded =>
    { store with
      known := store.known.map (·.link d) ++
        [{ descriptor := d, recorded := store.descriptors.filter d.isSubclass }] }
  | _ => { store with known := store.known ++ [{ descriptor := d }] }

/-- The description of a role that has been asked for before. -/
def role? (store : Store) (role : String) : Option Collection.Role := store.roles.lookup role

/-- Remembers the description of a role. -/
def addRole (store : Store) (role : String) (description : Collection.Role) : Store :=
  { store with roles := store.roles ++ [(role, description)] }

/-- The store once its session is closed. -/
def sever (store : Store) : Store := { store with linkage := .severed }

end Store

end EntityQuery
