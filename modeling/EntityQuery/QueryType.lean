import EntityQuery.Scalar
import EntityQuery.Collection.Kind

/-!
# Query types

The type of a property, a path or an expression as a query sees it. `unknown` stands wherever the
facts at hand do not decide; it is compatible with everything, so that one gap in the metadata
does not turn into a cascade of errors.

Equality is structural and decidable. `compatible` is coarser: it is reflexive and symmetric, and
transitive once `unknown` is left out. `name` is what messages print; it does not show the role or
the key of a collection.
-/

namespace EntityQuery

/-- A type of the query language. -/
inductive QueryType
  /-- A single value of a scalar type. -/
  | scalar (scalar : Scalar)
  /-- A value of an enumeration, by class name. -/
  | enumeration (className : String)
  /-- A reference to an entity, by entity name. -/
  | entity (entityName : String)
  /-- An embedded component, by class name. -/
  | embedded (className : String)
  /-- A collection. The role names it as an owner and a path; the key is there for maps. -/
  | collection (role : String) (kind : Collection.Kind) (element : QueryType)
      (key : Option QueryType)
  /-- Not enough is known. -/
  | unknown

namespace QueryType

/-- Induction on a query type. The hypothesis for the key of a collection is about the key it
has, if any. -/
@[induction_eliminator]
theorem inductionOn {motive : QueryType → Prop}
    (scalar : ∀ s, motive (.scalar s))
    (enumeration : ∀ c, motive (.enumeration c))
    (entity : ∀ n, motive (.entity n))
    (embedded : ∀ c, motive (.embedded c))
    (collection : ∀ role kind element key, motive element → (∀ k ∈ key, motive k) →
      motive (.collection role kind element key))
    (unknown : motive .unknown) : ∀ t, motive t :=
  @QueryType.rec motive (fun key => ∀ k ∈ key, motive k)
    scalar enumeration entity embedded collection unknown
    (fun _ mem => nomatch mem)
    (fun _ ih k mem => by cases mem; exact ih)

mutual

/-- Structural equality, as a test. -/
def same : QueryType → QueryType → Bool
  | .scalar s, .scalar s' => s = s'
  | .enumeration c, .enumeration c' => c = c'
  | .entity n, .entity n' => n = n'
  | .embedded c, .embedded c' => c = c'
  | .collection role kind element key, .collection role' kind' element' key' =>
    role = role' && kind = kind' && same element element' && sameKey key key'
  | .unknown, .unknown => true
  | _, _ => false

/-- Structural equality of two optional keys, as a test. -/
def sameKey : Option QueryType → Option QueryType → Bool
  | none, none => true
  | some k, some k' => same k k'
  | _, _ => false

end

/-- The test decides equality. -/
theorem same_iff {a b : QueryType} : same a b = true ↔ a = b := by
  induction a generalizing b with
  | scalar s => cases b <;> simp [same]
  | enumeration c => cases b <;> simp [same]
  | entity n => cases b <;> simp [same]
  | embedded c => cases b <;> simp [same]
  | unknown => cases b <;> simp [same]
  | collection role kind element key ihElement ihKey =>
    cases b with
    | collection role' kind' element' key' =>
      have keys : sameKey key key' = true ↔ key = key' := by
        cases key <;> cases key' <;> simp [sameKey, ihKey]
      simp [same, ihElement, keys, and_assoc]
    | _ => simp [same]

instance : DecidableEq QueryType := fun _ _ => decidable_of_iff _ same_iff

/-- Nothing is known about the value. -/
def isUnknown : QueryType → Bool
  | .unknown => true
  | _ => false

/-- The value is a number. -/
def isNumeric : QueryType → Bool
  | .scalar s => s.isNumeric
  | _ => false

/-- The value refers to an entity. -/
def isEntity : QueryType → Bool
  | .entity _ => true
  | _ => false

/-- The value is a collection. -/
def isCollection : QueryType → Bool
  | .collection .. => true
  | _ => false

/-- The entity referred to. -/
def entityName? : QueryType → Option String
  | .entity name => some name
  | _ => none

/-- The name of a type in messages. Names inside it are printed as they stand, and a collection
shows its kind and its element. -/
def name : QueryType → String
  | .scalar s => s.name
  | .enumeration className => "Enum:" ++ className
  | .entity entityName => "Entity:" ++ entityName
  | .embedded className => "Embedded:" ++ className
  | .collection _ kind element _ => kind.name ++ "<" ++ element.name ++ ">"
  | .unknown => "Unknown"

/-- A value of the one type may be compared with, or bound to, a value of the other: either is
unknown, or both are scalars of one family, or the types are equal. -/
def compatible : QueryType → QueryType → Bool
  | .unknown, _ => true
  | _, .unknown => true
  | .scalar s, .scalar s' => s.family = s'.family
  | a, b => a = b

/-- The scalar declared under a class name, or `unknown`. -/
def ofDeclared (className : String) : QueryType :=
  match Scalar.ofDeclared? className with
  | some s => .scalar s
  | none => .unknown

end QueryType

end EntityQuery
