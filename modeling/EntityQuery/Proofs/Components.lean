import EntityQuery.Proofs.Agreement

/-!
# Paths inside a component

There are two ways to look into an embedded component. An entity that has the component at a path
goes on with a longer path of its own, and ends at a member, or at the identifier of an association.
A component that is the element of a collection has no such path: there the walk starts with the
class of the component, knows nothing of identifiers, and names what it finds after the class.

**The law** (`Descriptor.component_walks_agree`): both come to the same members, at every depth, and
give them the same type. Only a collection shows from where it was reached, by its role. The two
differ in the first segment inside the component, which may be empty for a longer path, but not for
a path that starts there; so paths with an empty first segment are left out. Later segments may be
empty for both.
-/

namespace EntityQuery

/-! ## Types under two roles -/

/-- **The types differ in their role at most**: the one is what is found under role `site`, the other
is the same found under `site'`. Only a collection carries its role. -/
inductive QueryType.Relabelled (site site' : String) : QueryType → QueryType → Prop
  | single {type : QueryType} (single : type.isCollection = false) : Relabelled site site' type type
  | collection (kind : Collection.Kind) (element : QueryType) (key : Option QueryType) :
    Relabelled site site' (.collection site kind element key) (.collection site' kind element key)

/-- A member has the same type under all roles, up to the role. -/
theorem MemberFact.typeAt_relabelled (fact : MemberFact) (site site' : String) :
    QueryType.Relabelled site site' (fact.typeAt site) (fact.typeAt site') := by
  cases fact with
  | collection shape element key => exact .collection _ _ _
  | basic className => exact .single (elementType_isCollection (.basic className))
  | enumeration className => exact .single (elementType_isCollection (.enumeration className))
  | association entityName => exact .single (elementType_isCollection (.association entityName))
  | embedded className => exact .single (elementType_isCollection (.embedded className))

namespace Descriptor

variable {d : Descriptor} {fact inner : MemberFact} {front rest component : String}

/-! ## The longer path -/

/-- A path that leads to a member can be gone on with from there. -/
theorem follow_append_of_member {segments : List String} (others : List String)
    (reached : d.follow fact segments = some (.member inner)) :
    d.follow fact (segments ++ others) = d.follow inner others := by
  induction segments generalizing fact with
  | nil =>
    unfold follow at reached
    cases reached
    rfl
  | cons segment segments ih =>
    cases fact with
    | embedded component =>
      rw [follow_embedded] at reached
      obtain ⟨member, declared, reached⟩ := Option.bind_eq_some_iff.mp reached
      rw [List.cons_append, follow_embedded, declared]
      exact ih reached
    | association entityName =>
      -- what stands behind an association is no member
      cases segments with
      | nil =>
        unfold follow at reached
        split at reached <;> cases reached
      | cons next segments => cases reached
    | basic className => cases reached
    | enumeration className => cases reached
    | collection shape element key => cases reached

/-- **The longer path goes on from the member at its beginning.** -/
theorem target?_roleOf_of_member (reached : d.target? front = some (.member fact)) (rest : String) :
    d.target? (roleOf front rest) = d.follow fact (Text.dotted rest) := by
  obtain ⟨first, others, eq⟩ := List.exists_cons_of_ne_nil (Text.dotted_ne_nil front)
  unfold target? at reached ⊢
  rw [eq] at reached
  rw [Text.dotted_roleOf, eq, List.cons_append]
  dsimp only at reached ⊢
  split at reached
  · cases reached
  · next named =>
    obtain ⟨member, declared, reached⟩ := Option.bind_eq_some_iff.mp reached
    rw [if_neg named, declared]
    exact follow_append_of_member _ reached

/-! ## The path inside the component -/

/-- **Inside components the two walks come to the same members.** -/
theorem followComponent_eq_some {segments : List String} :
    d.followComponent fact segments = some inner ↔
      d.follow fact segments = some (.member inner) := by
  induction segments generalizing fact with
  | nil => simp [followComponent, follow]
  | cons segment segments ih =>
    cases fact with
    | embedded component =>
      rw [followComponent, follow_embedded, Option.bind_eq_some_iff, Option.bind_eq_some_iff]
      simp only [ih]
    | association entityName =>
      -- the identifier that the one walk may find here is not a member
      cases segments <;> simp [followComponent, follow]
    | basic className => simp [followComponent, follow]
    | enumeration className => simp [followComponent, follow]
    | collection shape element key => simp [followComponent, follow]

/-- The types that are found inside a component are those of its members, under the name of its
class. -/
theorem componentType?_eq_some {type : QueryType} (named : (Text.dotted rest).head? ≠ some "") :
    d.componentType? component rest = some type ↔
      ∃ fact, d.follow (.embedded component) (Text.dotted rest) = some (.member fact) ∧
        fact.typeAt (roleOf component rest) = type := by
  obtain ⟨first, others, eq⟩ := List.exists_cons_of_ne_nil (Text.dotted_ne_nil rest)
  have start : ¬ first.isEmpty := by
    rw [eq] at named
    simpa using named
  unfold componentType?
  rw [eq]
  dsimp only
  rw [if_neg start, Option.map_eq_some_iff, follow_embedded]
  simp only [Option.bind_eq_some_iff, followComponent_eq_some]

/-! ## Agreement -/

/-- **The two walks through components agree.** Take any entity, in either shape, a path from it to
an embedded component, and a path from there that does not start with an empty segment. The walk
that starts with the class of the component finds a type exactly if the entity's own walk of the
whole path reaches a member. Then the type that the entity has for the whole path is the one that was
found, but for the role if it is a collection: this is the class and the inner path for the one, and
the entity and the whole path for the other. -/
theorem component_walks_agree (d : Descriptor) (front component rest : String)
    (embedded : d.target? front = some (.member (.embedded component)))
    (named : (Text.dotted rest).head? ≠ some "") :
    ((∃ type, d.componentType? component rest = some type) ↔
      ∃ fact, d.target? (roleOf front rest) = some (.member fact)) ∧
    ∀ type, d.componentType? component rest = some type →
      ∃ type', d.declaredType? (roleOf front rest) = some type' ∧
        QueryType.Relabelled (roleOf component rest) (roleOf d.name (roleOf front rest))
          type type' := by
  have onward := target?_roleOf_of_member embedded rest
  rw [onward]
  refine ⟨⟨?_, ?_⟩, ?_⟩
  · rintro ⟨type, found⟩
    obtain ⟨fact, reached, -⟩ := (componentType?_eq_some named).mp found
    exact ⟨fact, reached⟩
  · rintro ⟨fact, reached⟩
    exact ⟨_, (componentType?_eq_some named).mpr ⟨fact, reached, rfl⟩⟩
  · intro type found
    obtain ⟨fact, reached, rfl⟩ := (componentType?_eq_some named).mp found
    refine ⟨fact.typeAt (roleOf d.name (roleOf front rest)), ?_, fact.typeAt_relabelled _ _⟩
    rw [← onward] at reached
    exact declaredType?_of_member (declaredMember?_eq_some.mpr reached)

/-- A depot has a gate inside its site, and another one under an empty name. -/
def depot : Descriptor where
  name := "Depot"
  shape := .mapped {
    entities := .ofList [
      ("Depot", { name := "Depot", properties := .ofList [("site", .embedded "Site")] })]
    components := .ofList [
      ("Site", .ofList [("gate", .embedded "Gate"), ("", .embedded "Gate")]),
      ("Gate", .ofList [
        ("keys", .collection "Set" (.basic "String") none),
        ("guard", .association "Person"),
        ("", .basic "int")])] }
  identifier := ⟨"id", .scalar .long⟩

/-- The keys of the gate are found from the site and from the depot, under two roles. What the gate
has under an empty name is found from both. The guard has an identifier for the depot only. -/
theorem keys_of_gate :
    let type : QueryType := .collection "Site.gate.keys" .set (.scalar .string) none
    let type' : QueryType := .collection "Depot.site.gate.keys" .set (.scalar .string) none
    depot.target? "site" = some (.member (.embedded "Site")) ∧
      (∀ rest ∈ ["gate.keys", "gate.", "gate.guard.id"], (Text.dotted rest).head? ≠ some "") ∧
      depot.componentType? "Site" "gate.keys" = some type ∧
      depot.declaredType? "site.gate.keys" = some type' ∧
      QueryType.Relabelled "Site.gate.keys" "Depot.site.gate.keys" type type' ∧
      (∃ fact, depot.target? "site.gate." = some (.member fact)) ∧
      depot.target? "site.gate.guard.id" = some .associationIdentifier ∧
      ¬ ∃ type, depot.componentType? "Site" "gate.guard.id" = some type := by
  intro type type'
  have embedded : depot.target? "site" = some (.member (.embedded "Site")) := rfl
  have named : ∀ rest ∈ ["gate.keys", "gate.", "gate.guard.id"],
      (Text.dotted rest).head? ≠ some "" := by decide +kernel
  have found : depot.componentType? "Site" "gate.keys" = some type := by decide +kernel
  have declared : depot.declaredType? "site.gate.keys" = some type' := by decide +kernel
  have inside : depot.componentType? "Site" "gate." = some (.scalar .integer) := by decide +kernel
  have identifier : depot.target? "site.gate.guard.id" = some .associationIdentifier := rfl
  obtain ⟨_, types⟩ := component_walks_agree depot "site" "Site" "gate.keys" embedded
    (named _ (by simp))
  obtain ⟨whole, typed, relabelled⟩ := types type found
  have same : whole = type' := Option.some.inj (typed.symm.trans declared)
  obtain ⟨nameless, -⟩ := component_walks_agree depot "site" "Site" "gate." embedded
    (named _ (by simp))
  obtain ⟨guarded, -⟩ := component_walks_agree depot "site" "Site" "gate.guard.id" embedded
    (named _ (by simp))
  refine ⟨embedded, named, found, declared, same ▸ relabelled, nameless.mp ⟨_, inside⟩, identifier,
    ?_⟩
  rw [guarded]
  rintro ⟨fact, member⟩
  cases identifier.symm.trans member

end Descriptor

end EntityQuery
