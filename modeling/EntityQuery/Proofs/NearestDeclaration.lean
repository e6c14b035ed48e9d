import EntityQuery.Proofs.Lineage

/-!
# Members are found at their nearest declaration

A class has the fields that it declares and those of its superclasses, and a mapped entity has the
properties that it declares and those of its parents. Where several of them declare a member, the
nearest one counts. `Nearest` says so without any walk: the declaration is a number of steps above,
and there is none at any smaller number of steps.

**The law** (`nearest_declaration_counts`): a member is found exactly at its nearest declaration,
and it is missing exactly if no number of steps leads to a declaration. The hierarchy may run in a
circle or lead to names that are not in the table, and a class may have a field whose type it does
not disclose, which does not count and does not stop the search.

That the search is cut off costs nothing. The way to the nearest declaration meets no name twice,
for otherwise it could leave out what is in between and arrive earlier (`Nearest.apart`). So a walk
that stops at the first name it meets again has been there by then, and so has one that stops after
as many steps as the table has entries (`Nearest.steps_le_length`).
-/

namespace EntityQuery

/-- **The nearest declaration upward.** It is made by `holder`, which is some steps above the name,
and no name on the way there makes any. -/
structure Nearest {α : Type} (parent : String → Option String) (declares : String → α → Prop)
    (name : String) (steps : Nat) (holder : String) (value : α) : Prop where
  reached : climb parent steps name = some holder
  declared : declares holder value
  first : ∀ k < steps, ∀ below, climb parent k name = some below →
    ∀ other, ¬ declares below other

namespace Nearest

variable {α : Type} {parent : String → Option String} {declares : String → α → Prop}
  {name holder holder' top : String} {steps steps' n : Nat} {value value' : α}

/-- Every declaration is at least as far away as the nearest one. -/
theorem steps_le (nearest : Nearest parent declares name steps holder value)
    (reached : climb parent n name = some top) (declared : declares top value') : steps ≤ n := by
  apply Nat.le_of_not_lt
  intro before
  exact nearest.first n before top reached value' declared

/-- There is one nearest declaration at most. -/
theorem holder_eq (nearest : Nearest parent declares name steps holder value)
    (nearest' : Nearest parent declares name steps' holder' value') : holder = holder' := by
  have same : steps = steps' := Nat.le_antisymm
    (nearest.steps_le nearest'.reached nearest'.declared)
    (nearest'.steps_le nearest.reached nearest.declared)
  subst same
  exact Option.some.inj (nearest.reached.symm.trans nearest'.reached)

/-- Wherever there is a declaration above, there is a nearest one. -/
theorem exists_of_climb (reached : climb parent n name = some top) (declared : declares top value) :
    ∃ steps holder value, Nearest parent declares name steps holder value := by
  classical
  have somewhere : ∃ n above value, climb parent n name = some above ∧ declares above value :=
    ⟨n, top, value, reached, declared⟩
  obtain ⟨holder, value, here, declared⟩ := Nat.find_spec somewhere
  refine ⟨Nat.find somewhere, holder, value, here, declared, ?_⟩
  intro k before below reached other declared
  exact Nat.find_min somewhere before ⟨below, other, reached, declared⟩

/-- **No name is met twice on the way to the nearest declaration.** -/
theorem apart (nearest : Nearest parent declares name steps holder value) {i j : Nat} (lt : i < j)
    (le : j ≤ steps) : climb parent i name ≠ climb parent j name := by
  intro same
  have shorter := climb_shortcut nearest.reached le same
  have far := nearest.steps_le shorter nearest.declared
  omega

/-- **The nearest declaration is no further away than the table is long.** -/
theorem steps_le_length {keys : List String} (entries : ∀ name, (parent name).isSome → name ∈ keys)
    (nearest : Nearest parent declares name steps holder value) : steps ≤ keys.length := by
  obtain ⟨m, le, reached⟩ := exists_climb_le entries nearest.reached
  exact Nat.le_trans (nearest.steps_le reached nearest.declared) le

/-- From any name on the way, what is nearest stays nearest. -/
theorem drop (nearest : Nearest parent declares name steps holder value)
    (reached : climb parent n name = some top) (le : n ≤ steps) :
    Nearest parent declares top (steps - n) holder value := by
  have onward : ∀ k, climb parent (n + k) name = climb parent k top := by
    intro k
    rw [climb_add, reached]
    rfl
  refine ⟨?_, nearest.declared, ?_⟩
  · rw [← onward, Nat.add_sub_cancel' le]
    exact nearest.reached
  · intro k before below here
    rw [← onward] at here
    exact nearest.first (n + k) (by omega) below here

/-- **What is declared above is declared for the name, too**: the nearest declaration is that of
the name above, or it is made before this name is met. -/
theorem of_above (functional : ∀ above v w, declares above v → declares above w → v = w)
    (nearest : Nearest parent declares top steps holder value)
    (reached : climb parent n name = some top) :
    ∃ steps' holder' value', Nearest parent declares name steps' holder' value' ∧
      (value' = value ∨ ∀ k ≤ steps', climb parent k name ≠ some top) := by
  have further : climb parent (n + steps) name = some holder := by
    rw [climb_add, reached]
    exact nearest.reached
  obtain ⟨steps', holder', value', near⟩ := exists_of_climb further nearest.declared
  refine ⟨steps', holder', value', near, ?_⟩
  by_cases met : ∃ k ≤ steps', climb parent k name = some top
  · obtain ⟨k, le, here⟩ := met
    have same := (near.drop here le).holder_eq nearest
    have declared := nearest.declared
    rw [← same] at declared
    exact .inl (functional holder' value' value near.declared declared)
  · refine .inr ?_
    intro k le here
    exact met ⟨k, le, here⟩

end Nearest

/-! ## Searching a lineage -/

section Search

variable {α : Type} {parent : String → Option String} {keys : List String} {name : String}
  {find? : String → Option α} {declares : String → α → Prop}

/-- **A search of a lineage misses what is declared nowhere above**, and nothing else. -/
theorem findSome?_lineage_eq_none (entries : ∀ name, (parent name).isSome → name ∈ keys)
    (finds : ∀ above value, find? above = some value ↔ declares above value) :
    (lineage parent (keys.length + 1) name).findSome? find? = none ↔
      ¬ ∃ n above value, climb parent n name = some above ∧ declares above value := by
  rw [List.findSome?_eq_none_iff]
  constructor
  · rintro nothing ⟨n, above, value, reached, declared⟩
    have missing := nothing above ((mem_lineage_iff entries).mpr ⟨n, reached⟩)
    rw [(finds above value).mpr declared] at missing
    cases missing
  · intro nowhere above listed
    obtain ⟨n, reached⟩ := (mem_lineage_iff entries).mp listed
    refine Option.eq_none_iff_forall_ne_some.mpr ?_
    intro value found
    exact nowhere ⟨n, above, value, reached, (finds above value).mp found⟩

/-- What a search of a lineage finds is the nearest declaration. -/
theorem nearest_of_findSome?
    (finds : ∀ above value, find? above = some value ↔ declares above value)
    {limit : Nat} {value : α} (found : (lineage parent limit name).findSome? find? = some value) :
    ∃ steps holder, Nearest parent declares name steps holder value := by
  obtain ⟨before, holder, after, order, here, nothing⟩ := List.findSome?_eq_some_iff.mp found
  -- a place on the lineage is a number of steps
  have listed : ∀ {k : Nat} {above : String}, (lineage parent limit name)[k]? = some above →
      k < limit ∧ climb parent k name = some above := by
    intro k above at_k
    rw [lineage_getElem?] at at_k
    split at at_k
    · next within => exact ⟨within, at_k⟩
    · cases at_k
  have top : (lineage parent limit name)[before.length]? = some holder := by
    rw [order]
    simp
  obtain ⟨within, reached⟩ := listed top
  refine ⟨before.length, holder, reached, (finds holder value).mp here, ?_⟩
  intro k lt below there other declared
  have place : (lineage parent limit name)[k]? = some below := by
    rw [lineage_getElem?, if_pos (Nat.lt_trans lt within)]
    exact there
  rw [order, List.getElem?_append_left lt] at place
  have missing := nothing below (List.mem_of_getElem? place)
  rw [(finds below other).mpr declared] at missing
  cases missing

/-- **A search of a lineage finds the nearest declaration.** -/
theorem findSome?_lineage_eq_some (entries : ∀ name, (parent name).isSome → name ∈ keys)
    (finds : ∀ above value, find? above = some value ↔ declares above value) {value : α} :
    (lineage parent (keys.length + 1) name).findSome? find? = some value ↔
      ∃ steps holder, Nearest parent declares name steps holder value := by
  constructor
  · exact nearest_of_findSome? finds
  · rintro ⟨steps, holder, nearest⟩
    cases found : (lineage parent (keys.length + 1) name).findSome? find? with
    | none =>
      exact absurd ⟨steps, holder, value, nearest.reached, nearest.declared⟩
        ((findSome?_lineage_eq_none entries finds).mp found)
    | some value' =>
      obtain ⟨steps', holder', nearest'⟩ := nearest_of_findSome? finds found
      have declared := (finds holder value).mpr nearest.declared
      have declared' := (finds holder' value').mpr nearest'.declared
      rw [nearest.holder_eq nearest', declared'] at declared
      exact declared

end Search

/-! ## Fields of classes -/

namespace ClassModel

variable {model : ClassModel} {className field : String} {fact : MemberFact}

/-- The class itself has the field, and a type is known for it. -/
def Discloses (model : ClassModel) (className field : String) (fact : MemberFact) : Prop :=
  model.hasField className field ∧ model.fieldType? className field = some fact

theorem disclosed?_eq_some :
    model.disclosed? className field = some fact ↔ model.Discloses className field fact := by
  unfold disclosed? Discloses
  split
  · next has => simp [has]
  · next missing => simp [missing]

theorem inheritedFieldType?_eq_some : model.inheritedFieldType? className field = some fact ↔
    ∃ steps holder,
      Nearest model.superclass? (model.Discloses · field) className steps holder fact := by
  unfold inheritedFieldType? ancestry
  rw [size_eq]
  exact findSome?_lineage_eq_some model.mem_of_superclass? fun _ _ => disclosed?_eq_some

theorem inheritedFieldType?_eq_none : model.inheritedFieldType? className field = none ↔
    ¬ ∃ n above fact,
      climb model.superclass? n className = some above ∧ model.Discloses above field fact := by
  unfold inheritedFieldType? ancestry
  rw [size_eq]
  exact findSome?_lineage_eq_none model.mem_of_superclass? fun _ _ => disclosed?_eq_some

end ClassModel

/-! ## Properties of mapped entities -/

namespace Mapping

variable {mapping : Mapping} {entity property : String} {fact : MemberFact}

/-- The entity is mapped, and it declares the property itself. -/
def Declares (mapping : Mapping) (entity property : String) (fact : MemberFact) : Prop :=
  ∃ declaration, mapping.entity? entity = some declaration ∧
    declaration.properties.get? property = some fact

theorem ownProperty?_eq_some :
    mapping.ownProperty? entity property = some fact ↔ mapping.Declares entity property fact :=
  Option.bind_eq_some_iff

theorem property?_eq_some : mapping.property? entity property = some fact ↔
    ∃ steps holder,
      Nearest mapping.parent? (mapping.Declares · property) entity steps holder fact := by
  unfold property? ancestry
  rw [size_eq]
  exact findSome?_lineage_eq_some mapping.mem_of_parent? fun _ _ => ownProperty?_eq_some

theorem property?_eq_none : mapping.property? entity property = none ↔
    ¬ ∃ n above fact,
      climb mapping.parent? n entity = some above ∧ mapping.Declares above property fact := by
  unfold property? ancestry
  rw [size_eq]
  exact findSome?_lineage_eq_none mapping.mem_of_parent? fun _ _ => ownProperty?_eq_some

/-- Only mapped entities have a parent, so all that one climbs past are mapped. -/
theorem mapped_below {n k : Nat} {top : String}
    (reached : climb mapping.parent? n entity = some top) (lt : k < n) :
    ∃ below declaration, climb mapping.parent? k entity = some below ∧
      mapping.entity? below = some declaration := by
  obtain ⟨below, here, goes⟩ := climb_of_lt reached lt
  obtain ⟨above, step⟩ := Option.isSome_iff_exists.mp goes
  obtain ⟨declaration, mapped, -⟩ := Option.bind_eq_some_iff.mp step
  exact ⟨below, declaration, here, mapped⟩

end Mapping

/-! ## The law -/

/-- **The nearest declaration counts**, whatever the hierarchy looks like.

A field of a class is found exactly with the type at the smallest number of steps upward, the class
itself included, at which a class has the field and a type is known for it; and it is missing
exactly if there is no such class at any number of steps. A property of a mapped entity is found
exactly as the nearest entity upward declares it that is mapped, all entities before it being mapped
as well; and it is missing exactly if there is none. The way there is no longer than the table, and
no name is met twice on it, so that it does not matter where a walk in a circle is cut off. -/
theorem nearest_declaration_counts :
    (∀ (model : ClassModel) (className field : String),
      let up := climb model.superclass?
      let NearestAt := Nearest model.superclass? (model.Discloses · field) className
      (∀ fact, model.inheritedFieldType? className field = some fact ↔
        ∃ steps holder, NearestAt steps holder fact) ∧
      (model.inheritedFieldType? className field = none ↔
        ¬ ∃ n above fact, up n className = some above ∧ model.Discloses above field fact) ∧
      (∀ steps holder fact, NearestAt steps holder fact →
        steps ≤ model.classes.size ∧
          ∀ i j, i < j → j ≤ steps → up i className ≠ up j className)) ∧
    (∀ (mapping : Mapping) (entity property : String),
      let up := climb mapping.parent?
      let NearestAt := Nearest mapping.parent? (mapping.Declares · property) entity
      (∀ fact, mapping.property? entity property = some fact ↔
        ∃ steps holder, NearestAt steps holder fact ∧
          ∀ k < steps, ∃ below declaration, up k entity = some below ∧
            mapping.entity? below = some declaration) ∧
      (mapping.property? entity property = none ↔
        ¬ ∃ n above fact, up n entity = some above ∧ mapping.Declares above property fact) ∧
      (∀ steps holder fact, NearestAt steps holder fact →
        steps ≤ mapping.entities.size ∧
          ∀ i j, i < j → j ≤ steps → up i entity ≠ up j entity)) := by
  refine ⟨?_, ?_⟩
  · intro model className field up NearestAt
    refine ⟨fun fact => ClassModel.inheritedFieldType?_eq_some,
      ClassModel.inheritedFieldType?_eq_none, ?_⟩
    intro steps holder fact nearest
    rw [model.size_eq]
    exact ⟨nearest.steps_le_length model.mem_of_superclass?, fun i j => nearest.apart⟩
  · intro mapping entity property up NearestAt
    refine ⟨fun fact => ?_, Mapping.property?_eq_none, ?_⟩
    · rw [Mapping.property?_eq_some]
      constructor
      · rintro ⟨steps, holder, nearest⟩
        exact ⟨steps, holder, nearest, fun k lt => Mapping.mapped_below nearest.reached lt⟩
      · rintro ⟨steps, holder, nearest, -⟩
        exact ⟨steps, holder, nearest⟩
    · intro steps holder fact nearest
      rw [mapping.size_eq]
      exact ⟨nearest.steps_le_length mapping.mem_of_parent?, fun i j => nearest.apart⟩

/-- Vessels and craft that extend each other. Vessels have a draught, but the type of it is not
disclosed. -/
def ClassModel.fleet : ClassModel :=
  (ofFacts [
    ClassFact.asEntity { name := "Ferry", superclass := some "Vessel" },
    ClassFact.asEntity {
      name := "Vessel"
      superclass := some "Craft"
      fields := .ofList [("draught", .basic "int"), ("crew", .basic "int")] },
    ClassFact.asEntity {
      name := "Craft"
      superclass := some "Vessel"
      fields := .ofList [("draught", .basic "long"), ("crew", .basic "long")] }]).withhold
    "Vessel" "draught"

/-- Tugs are ships, and ships are hulls, which are not mapped. -/
def Mapping.harbour : Mapping :=
  (empty.addEntity { name := "Tug", parent := some "Ship" }).addEntity
    { name := "Ship", parent := some "Hull", properties := .ofList [("flag", .basic "String")] }

/-- A ferry has the draught of a craft, two steps above it: that of the vessel in between is not
disclosed. No class above it has a beam, however long one goes round between vessels and craft. A
tug has the flag of a ship, and no draught: the hull above the ship is not mapped. -/
theorem draught_of_ferry :
    let ferry := climb ClassModel.fleet.superclass?
    let tug := climb Mapping.harbour.parent?
    Nearest ClassModel.fleet.superclass? (ClassModel.fleet.Discloses · "draught") "Ferry" 2 "Craft"
        (.basic "long") ∧
      ClassModel.fleet.inheritedFieldType? "Ferry" "draught" = some (.basic "long") ∧
      ¬ (∃ n above fact, ferry n "Ferry" = some above ∧
        ClassModel.fleet.Discloses above "beam" fact) ∧
      Nearest Mapping.harbour.parent? (Mapping.harbour.Declares · "flag") "Tug" 1 "Ship"
        (.basic "String") ∧
      Mapping.harbour.property? "Tug" "flag" = some (.basic "String") ∧
      ¬ ∃ n above fact, tug n "Tug" = some above ∧
        Mapping.harbour.Declares above "draught" fact := by
  intro ferry tug
  obtain ⟨classes, mappings⟩ := nearest_declaration_counts
  have third : Nearest ClassModel.fleet.superclass? (ClassModel.fleet.Discloses · "draught") "Ferry"
      2 "Craft" (.basic "long") := by
    refine ⟨rfl, ⟨rfl, rfl⟩, ?_⟩
    rintro k lt below reached other ⟨-, typed⟩
    obtain rfl | rfl : k = 0 ∨ k = 1 := by omega
    · cases reached
      cases typed
    · cases reached
      cases typed
  have second : Nearest Mapping.harbour.parent? (Mapping.harbour.Declares · "flag") "Tug" 1 "Ship"
      (.basic "String") := by
    refine ⟨rfl, ⟨_, rfl, rfl⟩, ?_⟩
    rintro k lt below reached other ⟨declaration, mapped, declared⟩
    obtain rfl : k = 0 := by omega
    cases reached
    cases mapped
    cases declared
  refine ⟨third, ?_, ?_, second, ?_, ?_⟩
  · exact ((classes .fleet "Ferry" "draught").1 _).mpr ⟨2, "Craft", third⟩
  · exact (classes .fleet "Ferry" "beam").2.1.mp rfl
  · refine ((mappings .harbour "Tug" "flag").1 _).mpr ⟨1, "Ship", second, ?_⟩
    intro k lt
    obtain rfl : k = 0 := by omega
    exact ⟨"Tug", _, rfl, rfl⟩
  · exact (mappings .harbour "Tug" "draught").2.1.mp rfl

end EntityQuery
