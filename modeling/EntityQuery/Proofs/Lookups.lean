import EntityQuery.Navigation.Walk
import EntityQuery.Proofs.Edges

/-!
# What look-ups are made of

The look-ups of the library are put together from a few: realizing an entity, the type of a
property path of a known entity, the description of a role, and readings that no edge has a
bearing on. `Lookup.MadeOf` says so of one look-up on one store. What holds of the few parts and
carries over from two look-ups to their sequence holds of all that is made of them. Here this is
done for three properties: the store is reached by moves (`MadeOf.reaches`), edges are ignored
(`MadeOf.ignoresEdges`), and no warning is told (`MadeOf.quiet`).

Each part is opened once, by a lemma that lists what can come of it.
-/

namespace EntityQuery

/-! ## The parts -/

namespace Schema

variable {schema : Schema} {store : Store}

/-- What can come of realizing an entity: it was known, or it is made known, or no source
recognises it. -/
theorem realize_cases (schema : Schema) (name : String) (store : Store) :
    (∃ k, store.find? name = some k ∧
      ((schema.realize name).run store).value = .ok k.descriptor ∧
      ((schema.realize name).run store).store = store) ∨
    (∃ d, store.find? name = none ∧ schema.describe? name = some d ∧
      ((schema.realize name).run store).value = .ok d ∧
      ((schema.realize name).run store).store = store.add d) ∨
    (store.find? name = none ∧ schema.describe? name = none ∧
      ((schema.realize name).run store).value = .error (.unmappedEntity name) ∧
      ((schema.realize name).run store).store = store) := by
  cases found : store.find? name with
  | some k =>
    have run : (schema.realize name).run store = ⟨.ok k.descriptor, store, [.entityFound name]⟩ := by
      simp only [realize, ExceptT.run, ExceptT.mk, found]
    exact .inl ⟨k, rfl, by rw [run], by rw [run]⟩
  | none =>
    cases described : schema.describe? name with
    | some d =>
      have run : (schema.realize name).run store =
          ⟨.ok d, store.add d, store.creationEvents d⟩ := by
        simp only [realize, ExceptT.run, ExceptT.mk, found, described]
      exact .inr (.inl ⟨d, rfl, rfl, by rw [run], by rw [run]⟩)
    | none =>
      have run : (schema.realize name).run store =
          ⟨.error (.unmappedEntity name), store, []⟩ := by
        simp only [realize, ExceptT.run, ExceptT.mk, found, described]
      exact .inr (.inr ⟨rfl, rfl, by rw [run], by rw [run]⟩)

theorem realize_eq_ok {name : String} {d : Descriptor}
    (realized : ((schema.realize name).run store).value = .ok d) :
    (∃ k, store.find? name = some k ∧ k.descriptor = d ∧
      ((schema.realize name).run store).store = store) ∨
    (store.find? name = none ∧ schema.describe? name = some d ∧
      ((schema.realize name).run store).store = store.add d) := by
  rcases schema.realize_cases name store with
    ⟨k, found, value, after⟩ | ⟨d', unknown, described, value, after⟩ | ⟨_, _, value, _⟩
  · rw [value] at realized
    cases realized
    exact .inl ⟨k, found, rfl, after⟩
  · rw [value] at realized
    cases realized
    exact .inr ⟨unknown, described, after⟩
  · rw [value] at realized
    cases realized

theorem realize_eq_error {name : String} {e : SchemaError}
    (failed : ((schema.realize name).run store).value = .error e) :
    store.find? name = none ∧ schema.describe? name = none ∧
      ((schema.realize name).run store).store = store := by
  rcases schema.realize_cases name store with
    ⟨_, _, value, _⟩ | ⟨_, _, _, value, _⟩ | ⟨unknown, undescribed, _, after⟩
  · rw [value] at failed
    cases failed
  · rw [value] at failed
    cases failed
  · exact ⟨unknown, undescribed, after⟩

/-- An entity fails to be realized for one reason only. -/
theorem realize_error {name : String} {e : SchemaError}
    (failed : ((schema.realize name).run store).value = .error e) : e = .unmappedEntity name := by
  rcases schema.realize_cases name store with
    ⟨_, _, value, _⟩ | ⟨_, _, _, value, _⟩ | ⟨_, _, value, _⟩
  · rw [value] at failed
    cases failed
  · rw [value] at failed
    cases failed
  · rw [value] at failed
    cases failed
    rfl

theorem realize_reaches (schema : Schema) (name : String) (store : Store) :
    schema.Reaches store ((schema.realize name).run store).store := by
  rcases schema.realize_cases name store with
    ⟨_, _, _, after⟩ | ⟨d, unknown, described, _, after⟩ | ⟨_, _, _, after⟩
  · rw [after]
    exact .refl store
  · rw [after]
    exact .single (.create unknown described)
  · rw [after]
    exact .refl store

/-- A realized descriptor is known from then on, and bears the name asked for. -/
theorem realize_known {name : String} {d : Descriptor}
    (realized : ((schema.realize name).run store).value = .ok d) :
    d ∈ ((schema.realize name).run store).store.descriptors ∧ d.name = name := by
  rcases realize_eq_ok realized with ⟨k, found, rfl, after⟩ | ⟨_, described, after⟩
  · rw [after]
    exact Store.descriptor_of_find? found
  · rw [after, Store.add_descriptors]
    exact ⟨List.mem_append_right _ (List.mem_singleton_self _), name_of_describe? described⟩

/-- On a faithful store, realizing gives what the schema describes. -/
theorem realize_value (faithful : store.Faithful schema) (name : String) :
    ((schema.realize name).run store).value =
      (schema.describe? name).elim (.error (.unmappedEntity name)) .ok := by
  rcases schema.realize_cases name store with
    ⟨k, found, value, _⟩ | ⟨d, _, described, value, _⟩ | ⟨_, undescribed, value, _⟩
  · obtain ⟨known, named⟩ := Store.descriptor_of_find? found
    rw [value, ← named, faithful _ known]
    rfl
  · rw [value, described]
    rfl
  · rw [value, undescribed]
    rfl

theorem realize_ignoresEdges (schema : Schema) (name : String) (store : Store) :
    (schema.realize name).run.IgnoresEdges store := by
  unfold Lookup.IgnoresEdges
  simp only [realize, ExceptT.run, ExceptT.mk, Store.find?_unlinked]
  cases store.find? name with
  | some k => exact ⟨rfl, rfl⟩
  | none =>
    cases schema.describe? name with
    | some d => exact ⟨rfl, (Store.unlinked_add d).symm⟩
    | none => exact ⟨rfl, rfl⟩

end Schema

namespace Descriptor

variable {schema : Schema} {store : Store} {d : Descriptor} {path : String}

/-- What can come of a question for a type: it is remembered, or declared, or borrowed from a
subclass, or there is none. -/
theorem propertyType_cases (d : Descriptor) (path : String) (store : Store) :
    (∃ type, store.memo? d.name path = some type ∧
      (d.propertyType path store).value = some type ∧
      (d.propertyType path store).store = store) ∨
    (∃ type, store.memo? d.name path = none ∧ d.declaredType? path = some type ∧
      (d.propertyType path store).value = some type ∧
      (d.propertyType path store).store = store.remember d.name path type) ∨
    (∃ subclass type, store.memo? d.name path = none ∧ d.declaredType? path = none ∧
      store.firstAnswer? path (store.subclasses d) = some (subclass, type) ∧
      (d.propertyType path store).value = some type ∧
      (d.propertyType path store).store =
        (store.remember subclass.name path type).remember d.name path type) ∨
    (store.memo? d.name path = none ∧ d.declaredType? path = none ∧
      store.firstAnswer? path (store.subclasses d) = none ∧
      (d.propertyType path store).value = none ∧
      (d.propertyType path store).store = store) := by
  cases held : store.memo? d.name path with
  | some type => exact .inl ⟨type, rfl, by simp [propertyType, held], by simp [propertyType, held]⟩
  | none =>
    cases declared : d.declaredType? path with
    | some type =>
      exact .inr (.inl ⟨type, rfl, rfl, by simp [propertyType, held, declared],
        by simp [propertyType, held, declared]⟩)
    | none =>
      cases first : store.firstAnswer? path (store.subclasses d) with
      | some answer =>
        exact .inr (.inr (.inl ⟨answer.1, answer.2, rfl, rfl, rfl,
          by simp [propertyType, held, declared, first],
          by simp [propertyType, held, declared, first]⟩))
      | none =>
        exact .inr (.inr (.inr ⟨rfl, rfl, rfl, by simp [propertyType, held, declared, first],
          by simp [propertyType, held, declared, first]⟩))

theorem propertyType_eq_some {type : QueryType}
    (answered : (d.propertyType path store).value = some type) :
    (store.memo? d.name path = some type ∧ (d.propertyType path store).store = store) ∨
    (store.memo? d.name path = none ∧ d.declaredType? path = some type ∧
      (d.propertyType path store).store = store.remember d.name path type) ∨
    (∃ subclass, store.memo? d.name path = none ∧ d.declaredType? path = none ∧
      store.firstAnswer? path (store.subclasses d) = some (subclass, type) ∧
      (d.propertyType path store).store =
        (store.remember subclass.name path type).remember d.name path type) := by
  rcases d.propertyType_cases path store with ⟨_, held, value, after⟩ |
    ⟨_, forgot, declared, value, after⟩ | ⟨e, _, forgot, undeclared, first, value, after⟩ |
    ⟨_, _, _, value, _⟩
  · rw [value] at answered
    cases answered
    exact .inl ⟨held, after⟩
  · rw [value] at answered
    cases answered
    exact .inr (.inl ⟨forgot, declared, after⟩)
  · rw [value] at answered
    cases answered
    exact .inr (.inr ⟨e, forgot, undeclared, first, after⟩)
  · rw [value] at answered
    cases answered

theorem propertyType_eq_none (missing : (d.propertyType path store).value = none) :
    d.declaredType? path = none ∧ store.firstAnswer? path (store.subclasses d) = none ∧
      (d.propertyType path store).store = store := by
  rcases d.propertyType_cases path store with ⟨_, _, value, _⟩ | ⟨_, _, _, value, _⟩ |
    ⟨_, _, _, _, _, value, _⟩ | ⟨_, undeclared, nothing, _, after⟩
  · rw [missing] at value
    cases value
  · rw [missing] at value
    cases value
  · rw [missing] at value
    cases value
  · exact ⟨undeclared, nothing, after⟩

theorem propertyType_reaches (schema : Schema) (known : d ∈ store.descriptors) (path : String) :
    schema.Reaches store (d.propertyType path store).store := by
  rcases d.propertyType_cases path store with ⟨_, _, _, after⟩ | ⟨_, held, declared, _, after⟩ |
    ⟨_, _, held, declared, first, _, after⟩ | ⟨_, _, _, _, after⟩
  · rw [after]
    exact .refl store
  · rw [after]
    exact .single (.declare known held declared)
  · rw [after]
    exact .single (.borrow known held declared first)
  · rw [after]
    exact .refl store

theorem propertyType_ignoresEdges (valid : store.Valid schema) (known : d ∈ store.descriptors)
    (path : String) : (d.propertyType path).IgnoresEdges store := by
  unfold Lookup.IgnoresEdges propertyType
  rw [Store.memo?_unlinked, Store.firstAnswer?_unlinked, valid.unlinked_subclasses known]
  cases store.memo? d.name path with
  | some type => exact ⟨rfl, rfl⟩
  | none =>
    cases d.declaredType? path with
    | some type => exact ⟨rfl, (Store.unlinked_remember _ _ _).symm⟩
    | none =>
      cases store.firstAnswer? path (store.subclasses d) with
      | some answer =>
        refine ⟨rfl, ?_⟩
        rw [Store.unlinked_remember, Store.unlinked_remember]
      | none => exact ⟨rfl, rfl⟩

end Descriptor

/-! ## Putting look-ups together -/

/-- The warning that an event tells, if it tells one. -/
def Event.warning? : Event → Option Diagnostic
  | .warned warning => some warning
  | _ => none

/-- **The look-up, on the store, is made of the parts above.** What a part is asked may depend on
what the parts before it gave. -/
inductive Lookup.MadeOf (schema : Schema) : {α : Type} → Lookup α → Store → Prop
  | pure {α : Type} {store : Store} (value : α) : MadeOf schema (Pure.pure value) store
  | emit {store : Store} (event : Event) (plain : event.warning? = none) :
      MadeOf schema (Lookup.emit event) store
  /-- A reading that is the same without edges. -/
  | read {α : Type} {store : Store} (f : Store → α) (same : f store.unlinked = f store) :
      MadeOf schema (Lookup.read f) store
  | realize {store : Store} (name : String) : MadeOf schema (schema.realize name).run store
  | propertyType {store : Store} {d : Descriptor} (known : d ∈ store.descriptors)
      (path : String) : MadeOf schema (d.propertyType path) store
  /-- The description of a role, if the search for it is made of the parts. -/
  | role {store : Store} (role : String) :
      MadeOf schema (schema.searchRole role (Text.ownerPathSplits role)) store →
      MadeOf schema (schema.describeRole role).run store
  | bind {α β : Type} {store : Store} {first : Lookup α} {next : α → Lookup β} :
      MadeOf schema first store →
      MadeOf schema (next (first store).value) (first store).store →
      MadeOf schema (first >>= next) store

namespace Schema

variable {schema : Schema} {store : Store}

theorem searchRole_madeOf (schema : Schema) (role : String) (splits : List (String × String))
    (store : Store) : (schema.searchRole role splits).MadeOf schema store := by
  induction splits generalizing store with
  | nil => exact .pure _
  | cons split others ih =>
    obtain ⟨owner, path⟩ := split
    unfold searchRole
    refine .bind (.realize owner) ?_
    cases ((schema.realize owner).run store).value with
    | error e => exact ih _
    | ok d =>
      dsimp only
      cases d.declaredMember? path with
      | some fact => exact .pure _
      | none => exact ih _

theorem describeRole_madeOf (schema : Schema) (role : String) (store : Store) :
    (schema.describeRole role).run.MadeOf schema store :=
  .role role (schema.searchRole_madeOf role _ store)

/-- Searching for a role describes none. -/
theorem searchRole_roles (schema : Schema) (role : String) (splits : List (String × String))
    (store : Store) : (schema.searchRole role splits store).store.roles = store.roles := by
  induction splits generalizing store with
  | nil => rfl
  | cons split others ih =>
    obtain ⟨owner, path⟩ := split
    have kept : ((schema.realize owner).run store).store.roles = store.roles := by
      rcases schema.realize_cases owner store with
        ⟨_, _, _, after⟩ | ⟨_, _, _, _, after⟩ | ⟨_, _, _, after⟩ <;> simp [after]
    unfold searchRole
    rw [Lookup.bind_store, ← kept]
    cases ((schema.realize owner).run store).value with
    | error e => exact ih _
    | ok d =>
      dsimp only
      cases d.declaredMember? path with
      | some fact => rfl
      | none => exact ih _

/-- On a faithful store, the search gives what the schema decides on. -/
theorem searchRole_value (faithful : store.Faithful schema) (role : String)
    (splits : List (String × String)) :
    (schema.searchRole role splits store).value = schema.decideRole role splits := by
  induction splits generalizing store with
  | nil => rfl
  | cons split others ih =>
    obtain ⟨owner, path⟩ := split
    have later := (schema.realize_reaches owner store).faithful faithful
    unfold searchRole decideRole
    rw [Lookup.bind_value, realize_value faithful owner]
    cases schema.describe? owner with
    | none => exact ih later
    | some d =>
      simp only [Option.elim_some, Option.bind_some]
      cases d.declaredMember? path with
      | some fact => rfl
      | none => exact ih later

/-- What can come of asking for a role: it was described before, or it is now, or the search for
it fails. -/
theorem describeRole_cases (schema : Schema) (role : String) (store : Store) :
    (∃ r, store.role? role = some r ∧ ((schema.describeRole role).run store).value = .ok r ∧
      ((schema.describeRole role).run store).store = store) ∨
    (∃ r, store.role? role = none ∧
      (schema.searchRole role (Text.ownerPathSplits role) store).value = .ok r ∧
      ((schema.describeRole role).run store).value = .ok r ∧
      ((schema.describeRole role).run store).store =
        (schema.searchRole role (Text.ownerPathSplits role) store).store.addRole role r) ∨
    (∃ e, store.role? role = none ∧
      (schema.searchRole role (Text.ownerPathSplits role) store).value = .error e ∧
      ((schema.describeRole role).run store).value = .error e ∧
      ((schema.describeRole role).run store).store =
        (schema.searchRole role (Text.ownerPathSplits role) store).store) := by
  simp only [describeRole, ExceptT.run, ExceptT.mk]
  cases store.role? role with
  | some r => exact .inl ⟨r, rfl, rfl, rfl⟩
  | none =>
    cases value : (schema.searchRole role (Text.ownerPathSplits role) store).value with
    | ok r => exact .inr (.inl ⟨r, rfl, rfl, rfl, rfl⟩)
    | error e => exact .inr (.inr ⟨e, rfl, rfl, rfl, rfl⟩)

theorem describeRole_eq_ok {role : String} {r : Collection.Role}
    (described : ((schema.describeRole role).run store).value = .ok r) :
    (store.role? role = some r ∧ ((schema.describeRole role).run store).store = store) ∨
    (store.role? role = none ∧ ((schema.describeRole role).run store).store =
      (schema.searchRole role (Text.ownerPathSplits role) store).store.addRole role r) := by
  rcases schema.describeRole_cases role store with
    ⟨_, held, value, after⟩ | ⟨_, undescribed, _, value, after⟩ | ⟨_, _, _, value, _⟩
  · rw [value] at described
    cases described
    exact .inl ⟨held, after⟩
  · rw [value] at described
    cases described
    exact .inr ⟨undescribed, after⟩
  · rw [value] at described
    cases described

theorem describeRole_eq_error {role : String} {e : SchemaError}
    (failed : ((schema.describeRole role).run store).value = .error e) :
    store.role? role = none ∧
      (schema.searchRole role (Text.ownerPathSplits role) store).value = .error e ∧
      ((schema.describeRole role).run store).store =
        (schema.searchRole role (Text.ownerPathSplits role) store).store := by
  rcases schema.describeRole_cases role store with
    ⟨_, _, value, _⟩ | ⟨_, _, _, value, _⟩ | ⟨_, undescribed, found, value, after⟩
  · rw [value] at failed
    cases failed
  · rw [value] at failed
    cases failed
  · rw [value] at failed
    cases failed
    exact ⟨undescribed, found, after⟩

theorem searchRole_error {role : String} {splits : List (String × String)} {e : SchemaError}
    (failed : (schema.searchRole role splits store).value = .error e) :
    e = .unmappedCollection role ∨ e = .notACollection role := by
  induction splits generalizing store with
  | nil =>
    cases failed
    exact .inl rfl
  | cons split others ih =>
    obtain ⟨owner, path⟩ := split
    unfold searchRole at failed
    rw [Lookup.bind_value] at failed
    cases realized : ((schema.realize owner).run store).value with
    | error _ =>
      rw [realized] at failed
      exact ih failed
    | ok d =>
      rw [realized] at failed
      dsimp only at failed
      cases declared : d.declaredMember? path with
      | none =>
        rw [declared] at failed
        exact ih failed
      | some fact =>
        rw [declared] at failed
        cases fact with
        | collection shape element key => cases failed
        | _ =>
          cases failed
          exact .inr rfl

/-- A role fails to be described for one of two reasons. -/
theorem describeRole_error {role : String} {e : SchemaError}
    (failed : ((schema.describeRole role).run store).value = .error e) :
    e = .unmappedCollection role ∨ e = .notACollection role :=
  searchRole_error (describeRole_eq_error failed).2.1

/-- A role is described by moves if the search for it consists of moves. -/
theorem describeRole_reaches {role : String}
    (search : schema.Reaches store
      (schema.searchRole role (Text.ownerPathSplits role) store).store) :
    schema.Reaches store ((schema.describeRole role).run store).store := by
  rcases schema.describeRole_cases role store with
    ⟨_, _, _, after⟩ | ⟨r, undescribed, found, _, after⟩ | ⟨_, _, _, _, after⟩
  · rw [after]
    exact .refl store
  · rw [after]
    refine search.trans (.single (.describe ?_ fun faithful => ?_))
    · unfold Store.role? at undescribed ⊢
      rw [schema.searchRole_roles]
      exact undescribed
    · rw [← searchRole_value (search.grows.faithful faithful) role, found]
  · rw [after]
    exact search

theorem describeRole_ignoresEdges {role : String}
    (search : (schema.searchRole role (Text.ownerPathSplits role)).IgnoresEdges store) :
    (schema.describeRole role).run.IgnoresEdges store := by
  obtain ⟨value, after⟩ := search
  have described : store.unlinked.role? role = store.role? role := rfl
  unfold Lookup.IgnoresEdges
  simp only [describeRole, ExceptT.run, ExceptT.mk, described, value, after]
  cases store.role? role with
  | some r => exact ⟨rfl, rfl⟩
  | none =>
    cases (schema.searchRole role (Text.ownerPathSplits role) store).value with
    | ok r => exact ⟨rfl, rfl⟩
    | error e => exact ⟨rfl, rfl⟩

end Schema

/-! ## What the parts tell -/

theorem Store.creationEvents_quiet (store : Store) (d : Descriptor) :
    (store.creationEvents d).filterMap Event.warning? = [] := by
  have edge : ∀ upper lower : Descriptor,
      (if upper.isSubclass lower then [Event.subclassRecorded upper.name lower.name]
        else []).filterMap Event.warning? = [] := by
    intro upper lower
    split <;> rfl
  unfold creationEvents
  rw [List.filterMap_cons]
  dsimp only [Event.warning?]
  split
  · rw [List.filterMap_flatMap, List.flatMap_eq_nil_iff]
    intro other _
    rw [List.filterMap_append, edge, edge, List.append_nil]
  · rfl

theorem Schema.realize_quiet (schema : Schema) (name : String) (store : Store) :
    ((schema.realize name).run store).events.filterMap Event.warning? = [] := by
  simp only [realize, ExceptT.run, ExceptT.mk]
  split
  · rfl
  · split
    · rfl
    · exact store.creationEvents_quiet _

theorem Descriptor.propertyType_quiet (d : Descriptor) (path : String) (store : Store) :
    (d.propertyType path store).events.filterMap Event.warning? = [] := by
  unfold propertyType
  split
  · rfl
  · split
    · rfl
    · split <;> rfl

theorem Schema.describeRole_quiet {schema : Schema} {store : Store} (role : String)
    (search : (schema.searchRole role (Text.ownerPathSplits role) store).events.filterMap
      Event.warning? = []) :
    ((schema.describeRole role).run store).events.filterMap Event.warning? = [] := by
  simp only [describeRole, ExceptT.run, ExceptT.mk]
  split
  · rfl
  · split
    · exact search
    · rw [List.filterMap_append, search]
      rfl

namespace Lookup.MadeOf

variable {schema : Schema} {store : Store} {α β ε ε' : Type}

/-- **All that look-ups do to a store is moves.** -/
theorem reaches {m : Lookup α} (made : m.MadeOf schema store) :
    schema.Reaches store (m store).store := by
  induction made with
  | pure _ => exact .refl _
  | emit _ _ => exact .refl _
  | read _ _ => exact .refl _
  | realize name => exact schema.realize_reaches name _
  | propertyType known path => exact Descriptor.propertyType_reaches schema known path
  | role _ _ search => exact Schema.describeRole_reaches search
  | bind _ _ first next => exact first.trans next

/-- **No look-up on a valid store depends on how the store finds subclasses.** -/
theorem ignoresEdges {m : Lookup α} (made : m.MadeOf schema store) (valid : store.Valid schema) :
    m.IgnoresEdges store := by
  induction made with
  | pure _ => exact ⟨rfl, rfl⟩
  | emit _ _ => exact ⟨rfl, rfl⟩
  | read _ same => exact ⟨same, rfl⟩
  | realize name => exact schema.realize_ignoresEdges name _
  | propertyType known path => exact Descriptor.propertyType_ignoresEdges valid known path
  | role _ _ search => exact Schema.describeRole_ignoresEdges (search valid)
  | bind first _ ihFirst ihNext =>
    obtain ⟨value, after⟩ := ihFirst valid
    obtain ⟨value', after'⟩ := ihNext (first.reaches.valid valid)
    refine ⟨?_, ?_⟩
    · rw [bind_value, bind_value, value, after, value']
    · rw [bind_store, bind_store, value, after, after']

/-- **No look-up tells a warning.** -/
theorem quiet {m : Lookup α} (made : m.MadeOf schema store) :
    (m store).events.filterMap Event.warning? = [] := by
  induction made with
  | pure _ => rfl
  | emit event plain =>
    show [event].filterMap Event.warning? = []
    rw [List.filterMap_cons, plain]
    rfl
  | read _ _ => rfl
  | realize name => exact schema.realize_quiet name _
  | propertyType _ path => exact Descriptor.propertyType_quiet _ path _
  | role role _ search => exact Schema.describeRole_quiet role search
  | bind _ _ first next => rw [bind_events, List.filterMap_append, first, next, List.append_nil]

end Lookup.MadeOf

end EntityQuery
