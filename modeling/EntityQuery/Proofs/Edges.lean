import EntityQuery.Proofs.Moves

/-!
# Stores without their edges

A store that records subclass edges can be stripped of them: `Store.unlinked` finds subclasses on
demand instead, and is otherwise the same. Every operation of a store does the same to a store and
to its stripped copy, and in a valid store the copy shows the same subclasses
(`Store.Valid.unlinked_subclasses`). A look-up ignores edges if, on the copy, it gives the same
value and leaves the copy of what it would have left (`Lookup.IgnoresEdges`).
-/

namespace EntityQuery

/-- The linkage that records nothing. A severed store stays severed. -/
def Linkage.unlinked : Linkage → Linkage
  | .severed => .severed
  | _ => .onDemand

/-- The entity without its recorded subclasses. -/
def Known.unlinked (k : Known) : Known := { k with recorded := [] }

/-- **The store without its edges.** -/
def Store.unlinked (store : Store) : Store where
  linkage := store.linkage.unlinked
  known := store.known.map (·.unlinked)
  roles := store.roles

namespace Known

theorem unlinked_remember (k : Known) (path : String) (type : QueryType) :
    (k.remember path type).unlinked = k.unlinked.remember path type := rfl

end Known

namespace Store

variable {store : Store} {d : Descriptor}

@[simp] theorem unlinked_linkage : store.unlinked.linkage = store.linkage.unlinked := rfl

@[simp] theorem unlinked_roles : store.unlinked.roles = store.roles := rfl

@[simp] theorem unlinked_descriptors : store.unlinked.descriptors = store.descriptors := by
  unfold unlinked descriptors
  rw [List.map_map]
  rfl

@[simp] theorem find?_unlinked (name : String) :
    store.unlinked.find? name = (store.find? name).map (·.unlinked) := by
  unfold unlinked find?
  rw [List.find?_map]
  rfl

@[simp] theorem memo?_unlinked (name path : String) :
    store.unlinked.memo? name path = store.memo? name path := by
  unfold memo?
  rw [find?_unlinked]
  cases store.find? name <;> rfl

theorem unlinked_remember (name path : String) (type : QueryType) :
    (store.remember name path type).unlinked = store.unlinked.remember name path type := by
  unfold remember unlinked
  simp only [List.map_map, mk.injEq, true_and, and_true]
  refine List.map_congr_left fun k _ => ?_
  simp only [Function.comp_apply]
  have named : k.unlinked.name = k.name := rfl
  rw [named]
  split
  · exact k.unlinked_remember path type
  · rfl

/-- Adding to the copy adds no edge, and neither does stripping what was added. -/
theorem unlinked_add (d : Descriptor) : (store.add d).unlinked = store.unlinked.add d := by
  cases linkage : store.linkage <;>
    simp [add, unlinked, linkage, Linkage.unlinked, Known.unlinked]

/-- **A valid store and its copy show the same subclasses.** -/
theorem Valid.unlinked_subclasses {schema : Schema} (valid : store.Valid schema)
    (known : d ∈ store.descriptors) : store.unlinked.subclasses d = store.subclasses d := by
  by_cases severed : store.linkage = .severed
  · unfold subclasses
    rw [unlinked_linkage, severed]
    rfl
  · have onDemand : store.unlinked.linkage = .onDemand := by
      rw [unlinked_linkage]
      cases linkage : store.linkage with
      | severed => exact absurd linkage severed
      | onDemand => rfl
      | recorded => rfl
    rw [valid.subclasses_eq severed known]
    unfold subclasses
    rw [onDemand, unlinked_descriptors]

theorem ownType?_unlinked (d : Descriptor) (path : String) :
    store.unlinked.ownType? d path = store.ownType? d path := by
  unfold ownType?
  rw [memo?_unlinked]

theorem firstAnswer?_unlinked (path : String) (ds : List Descriptor) :
    store.unlinked.firstAnswer? path ds = store.firstAnswer? path ds := by
  unfold firstAnswer?
  simp only [ownType?_unlinked]

end Store

/-- The look-up does to the stripped copy of the store what it does to the store. -/
def Lookup.IgnoresEdges {α : Type} (m : Lookup α) (store : Store) : Prop :=
  (m store.unlinked).value = (m store).value ∧ (m store.unlinked).store = (m store).store.unlinked

end EntityQuery
