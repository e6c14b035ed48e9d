import EntityQuery.Proofs.Store
import EntityQuery.Store.Role
import Mathlib.Data.List.Nodup
import Mathlib.Logic.Relation

/-!
# What can happen to a store

A look-up changes a store by moves of four sorts: an entity becomes known, an entity remembers a
type that it declares, an entity remembers a type together with the subclass that it borrowed it
from, and a role is described. `Schema.Move` lists them, each with all that is known when it is
made, and `Schema.Reaches` is any number of moves. Whatever moves keep, every look-up keeps.

Two things are kept by every move. A store only grows (`Store.Grows`): descriptors and roles are
put at the end, and what is remembered stays. And a store stays valid (`Store.Valid`): its
descriptors are those of the schema and bear different names, and where subclass edges are
recorded they are exactly the edges that a look over all known descriptors would find.
-/

namespace EntityQuery

/-! ## Reading a role without a store -/

/-- How the ways to read a role are decided, by the schema alone: the first owner that is an
entity and declares the rest decides. -/
def Schema.decideRole (schema : Schema) (role : String) :
    List (String × String) → Except SchemaError Collection.Role
  | [] => .error (.unmappedCollection role)
  | (owner, path) :: others =>
    match (schema.describe? owner).bind (·.declaredMember? path) with
    | some fact => Collection.Role.ofMember role owner fact
    | none => schema.decideRole role others

theorem Schema.name_of_describe? {schema : Schema} {name : String} {d : Descriptor}
    (described : schema.describe? name = some d) : d.name = name := by
  obtain ⟨shape, -, rfl⟩ := Option.map_eq_some_iff.mp described
  rfl

/-! ## Valid stores -/

/-- The known descriptors are those that the schema gives their names. -/
def Store.Faithful (schema : Schema) (store : Store) : Prop :=
  ∀ d ∈ store.descriptors, schema.describe? d.name = some d

theorem Store.Faithful.add {schema : Schema} {store : Store} {d : Descriptor}
    (faithful : store.Faithful schema) (described : schema.describe? d.name = some d) :
    (store.add d).Faithful schema := by
  intro other known
  rw [add_descriptors, List.mem_append, List.mem_singleton] at known
  rcases known with known | rfl
  · exact faithful other known
  · exact described

/-- **A valid store.** Its descriptors are those of the schema and are told apart by name. Where
subclass edges are recorded, each entity has recorded the known descriptors that are subclasses
of it, in the order of creation. -/
structure Store.Valid (schema : Schema) (store : Store) : Prop where
  faithful : store.Faithful schema
  distinct : (store.descriptors.map (·.name)).Nodup
  linked : store.linkage = .recorded →
    ∀ k ∈ store.known, k.recorded = store.descriptors.filter k.descriptor.isSubclass

/-- A store that knows nothing is valid. -/
theorem Store.valid_of_known_nil {schema : Schema} {store : Store} (nothing : store.known = []) :
    store.Valid schema := by
  have none : store.descriptors = [] := by rw [descriptors, nothing, List.map_nil]
  refine ⟨?_, ?_, ?_⟩
  · intro d known
    rw [none] at known
    exact absurd known List.not_mem_nil
  · rw [none]
    exact List.nodup_nil
  · intro _ k known
    rw [nothing] at known
    exact absurd known List.not_mem_nil

namespace Store.Valid

variable {schema : Schema} {store : Store} {d : Descriptor} {k : Known}

/-- In a valid store a name leads to one descriptor only. -/
theorem eq_of_name (valid : store.Valid schema) {a b : Descriptor} (hereA : a ∈ store.descriptors)
    (hereB : b ∈ store.descriptors) (named : a.name = b.name) : a = b :=
  List.inj_on_of_nodup_map valid.distinct hereA hereB named

theorem find?_descriptor_eq (valid : store.Valid schema) (known : d ∈ store.descriptors) :
    ∃ k, store.find? d.name = some k ∧ k.descriptor = d := by
  obtain ⟨k, found⟩ := Store.find?_isSome known
  obtain ⟨here, named⟩ := Store.descriptor_of_find? found
  exact ⟨k, found, valid.eq_of_name here known named⟩

/-- **Both ways to find subclasses agree.** As long as the store is not severed, the subclasses
that a known descriptor sees are the known descriptors that are subclasses of it, in the order of
creation. -/
theorem subclasses_eq (valid : store.Valid schema) (alive : store.linkage ≠ .severed)
    (known : d ∈ store.descriptors) :
    store.subclasses d = store.descriptors.filter d.isSubclass := by
  unfold Store.subclasses
  cases linkage : store.linkage with
  | onDemand => rfl
  | severed => exact absurd linkage alive
  | recorded =>
    obtain ⟨k, found, rfl⟩ := valid.find?_descriptor_eq known
    rw [found]
    exact valid.linked linkage k (Store.mem_of_find? found)

/-- Every subclass that a known descriptor sees is a known descriptor, and is its subclass. -/
theorem mem_subclasses (valid : store.Valid schema) (known : d ∈ store.descriptors)
    {subclass : Descriptor} (seen : subclass ∈ store.subclasses d) :
    subclass ∈ store.descriptors ∧ d.isSubclass subclass := by
  by_cases alive : store.linkage = .severed
  · unfold Store.subclasses at seen
    rw [alive] at seen
    exact absurd seen List.not_mem_nil
  · rw [valid.subclasses_eq alive known] at seen
    exact List.mem_filter.mp seen

end Store.Valid

/-! ## Moves -/

/-- **One change of a store.** -/
inductive Schema.Move (schema : Schema) : Store → Store → Prop
  /-- An entity that was not known is made known. -/
  | create {store : Store} {name : String} {d : Descriptor} :
      store.find? name = none → schema.describe? name = some d →
      schema.Move store (store.add d)
  /-- A known entity remembers a type that it declares or inherits. -/
  | declare {store : Store} {d : Descriptor} {path : String} {type : QueryType} :
      d ∈ store.descriptors → store.memo? d.name path = none →
      d.declaredType? path = some type →
      schema.Move store (store.remember d.name path type)
  /-- A known entity that has no type for a path of its own takes that of its first subclass that
  has one, and both remember it. -/
  | borrow {store : Store} {d subclass : Descriptor} {path : String} {type : QueryType} :
      d ∈ store.descriptors → store.memo? d.name path = none →
      d.declaredType? path = none →
      store.firstAnswer? path (store.subclasses d) = some (subclass, type) →
      schema.Move store
        ((store.remember subclass.name path type).remember d.name path type)
  /-- A role that was not described gets the description that the schema decides on. -/
  | describe {store : Store} {role : String} {description : Collection.Role} :
      store.role? role = none →
      (store.Faithful schema →
        schema.decideRole role (Text.ownerPathSplits role) = .ok description) →
      schema.Move store (store.addRole role description)

/-- Some moves, one after the other. -/
def Schema.Reaches (schema : Schema) : Store → Store → Prop :=
  Relation.ReflTransGen schema.Move

/-! ## Stores grow -/

/-- **The store has grown.** Descriptors and roles were put at the end, and no remembered type was
lost or replaced. -/
structure Store.Grows (before after : Store) : Prop where
  descriptors : before.descriptors <+: after.descriptors
  memo : ∀ {name path : String} {type : QueryType},
    before.memo? name path = some type → after.memo? name path = some type
  roles : before.roles <+: after.roles

namespace Store.Grows

variable {a b c : Store}

theorem refl (store : Store) : store.Grows store :=
  ⟨List.prefix_rfl, id, List.prefix_rfl⟩

theorem trans (first : a.Grows b) (second : b.Grows c) : a.Grows c :=
  ⟨first.descriptors.trans second.descriptors, fun held => second.memo (first.memo held),
    first.roles.trans second.roles⟩

theorem mem (grows : a.Grows b) {d : Descriptor} (known : d ∈ a.descriptors) :
    d ∈ b.descriptors :=
  grows.descriptors.subset known

/-- An entity that is known stays known under the same descriptor. -/
theorem find? (grows : a.Grows b) {name : String} {k : Known} (found : a.find? name = some k) :
    ∃ k', b.find? name = some k' ∧ k'.descriptor = k.descriptor := by
  have early : a.descriptors.find? (·.name = name) = some k.descriptor := by
    rw [← Store.find?_descriptor, found]
    rfl
  obtain ⟨later, eq⟩ := grows.descriptors
  have late : (b.find? name).map (·.descriptor) = some k.descriptor := by
    rw [Store.find?_descriptor, ← eq, List.find?_append, early]
    rfl
  exact Option.map_eq_some_iff.mp late

/-- A role that is described keeps its description. -/
theorem role? (grows : a.Grows b) {role : String} {description : Collection.Role}
    (described : a.role? role = some description) : b.role? role = some description := by
  unfold Store.role? at described ⊢
  obtain ⟨later, eq⟩ := grows.roles
  rw [← eq, List.lookup_append, described]
  rfl

end Store.Grows

/-- Remembering a type takes nothing from a store where the path has none, or this one. -/
theorem Store.grows_remember {store : Store} {name path : String} {type : QueryType}
    (told : ∀ held, store.memo? name path = some held → held = type) :
    store.Grows (store.remember name path type) := by
  refine ⟨?_, memo?_remember_of_some told, List.prefix_rfl⟩
  simp only [remember_descriptors, List.prefix_rfl]

/-- A store that grew into a faithful one was faithful. -/
theorem Store.Grows.faithful {schema : Schema} {before after : Store} (grows : before.Grows after)
    (faithful : after.Faithful schema) : before.Faithful schema :=
  fun d known => faithful d (grows.mem known)

/-- Closing a session takes nothing from its store. -/
theorem Store.grows_sever (store : Store) : store.Grows store.sever :=
  ⟨List.prefix_rfl, id, List.prefix_rfl⟩

namespace Schema

variable {schema : Schema} {before after : Store}

/-- Every move makes the store grow. -/
theorem Move.grows (move : schema.Move before after) : before.Grows after := by
  cases move with
  | @create name d unknown described =>
    have named := name_of_describe? described
    subst named
    refine ⟨?_, ?_, ?_⟩
    · rw [Store.add_descriptors]
      exact List.prefix_append _ _
    · intro name path type held
      rw [Store.memo?_add unknown]
      exact held
    · simp only [Store.add_roles, List.prefix_rfl]
  | declare _ forgot _ =>
    refine Store.grows_remember fun held old => ?_
    rw [forgot] at old
    cases old
  | @borrow d subclass path type _ forgot _ first =>
    obtain ⟨-, own⟩ := Store.mem_of_firstAnswer? first
    have lent : ∀ held, before.memo? subclass.name path = some held → held = type := by
      intro held old
      rcases Store.ownType?_eq_some own with answered | ⟨nothing, -⟩
      · exact Option.some.inj (old.symm.trans answered)
      · rw [nothing] at old
        cases old
    have taken : ∀ held,
        (before.remember subclass.name path type).memo? d.name path = some held → held = type := by
      intro held told
      rcases Store.memo?_of_remember told with old | ⟨-, -, same⟩
      · rw [forgot] at old
        cases old
      · exact same
    exact (Store.grows_remember lent).trans (Store.grows_remember taken)
  | describe => exact ⟨List.prefix_rfl, id, List.prefix_append _ _⟩

/-- No move severs a store or changes how it finds subclasses. -/
theorem Move.linkage (move : schema.Move before after) : after.linkage = before.linkage := by
  cases move with
  | create => exact Store.add_linkage
  | declare => rfl
  | borrow => rfl
  | describe => rfl

/-- Every move keeps a store faithful. -/
theorem Move.faithful (move : schema.Move before after) (faithful : before.Faithful schema) :
    after.Faithful schema := by
  cases move with
  | @create name d _ described =>
    have named := name_of_describe? described
    subst named
    exact faithful.add described
  | declare =>
    intro d known
    rw [Store.remember_descriptors] at known
    exact faithful d known
  | borrow =>
    intro d known
    rw [Store.remember_descriptors, Store.remember_descriptors] at known
    exact faithful d known
  | describe => exact faithful

theorem Reaches.refl (store : Store) : schema.Reaches store store :=
  Relation.ReflTransGen.refl

theorem Reaches.single (move : schema.Move before after) : schema.Reaches before after :=
  Relation.ReflTransGen.single move

theorem Reaches.trans {middle : Store} (first : schema.Reaches before middle)
    (second : schema.Reaches middle after) : schema.Reaches before after :=
  Relation.ReflTransGen.trans first second

/-- **What every move keeps, any number of moves keep.** -/
theorem Reaches.keeps {holds : Store → Prop}
    (kept : ∀ {a b : Store}, schema.Move a b → holds a → holds b)
    (reaches : schema.Reaches before after) (start : holds before) : holds after := by
  induction reaches with
  | refl => exact start
  | tail _ move ih => exact kept move ih

theorem Reaches.grows (reaches : schema.Reaches before after) : before.Grows after :=
  reaches.keeps (fun move grown => grown.trans move.grows) (Store.Grows.refl before)

theorem Reaches.faithful (reaches : schema.Reaches before after)
    (faithful : before.Faithful schema) : after.Faithful schema :=
  reaches.keeps Move.faithful faithful

theorem Reaches.linkage (reaches : schema.Reaches before after) :
    after.linkage = before.linkage :=
  reaches.keeps (fun move same => move.linkage.trans same) rfl

end Schema

/-! ## Moves keep stores valid -/

/-- No descriptor is a subclass of itself. -/
theorem Descriptor.isSubclass_self (d : Descriptor) : d.isSubclass d = false := by
  simp [isSubclass]

namespace Store.Valid

variable {schema : Schema} {store : Store}

/-- A store with the same descriptors and edges is valid too, whatever it remembers. -/
theorem of_known {other : Store} (valid : store.Valid schema)
    (linkage : other.linkage = store.linkage) (same : other.descriptors = store.descriptors)
    (known : ∀ k ∈ other.known,
      ∃ k₀ ∈ store.known, k.descriptor = k₀.descriptor ∧ k.recorded = k₀.recorded) :
    other.Valid schema := by
  refine ⟨?_, ?_, ?_⟩
  · intro d here
    rw [same] at here
    exact valid.faithful d here
  · rw [same]
    exact valid.distinct
  · intro recorded k here
    rw [linkage] at recorded
    obtain ⟨k₀, here₀, descriptor, edges⟩ := known k here
    rw [same, edges, descriptor]
    exact valid.linked recorded k₀ here₀

theorem remember (valid : store.Valid schema) (name path : String) (type : QueryType) :
    (store.remember name path type).Valid schema := by
  refine valid.of_known rfl Store.remember_descriptors fun k here => ?_
  obtain ⟨k₀, here₀, rfl⟩ := List.mem_map.mp here
  refine ⟨k₀, here₀, ?_⟩
  split
  · exact ⟨k₀.remember_descriptor path type, k₀.remember_recorded path type⟩
  · exact ⟨rfl, rfl⟩

theorem addRole (valid : store.Valid schema) (role : String) (description : Collection.Role) :
    (store.addRole role description).Valid schema :=
  valid.of_known rfl rfl fun k here => ⟨k, here, rfl, rfl⟩

/-- The edges once a descriptor is added. Each known entity records the new one if it is a
subclass; the new one records the known ones that are, and not itself. -/
theorem linked_add (valid : store.Valid schema) (d : Descriptor)
    (recorded : store.linkage = .recorded) :
    ∀ k ∈ (store.add d).known,
      k.recorded = (store.descriptors ++ [d]).filter k.descriptor.isSubclass := by
  intro k here
  simp only [Store.add, recorded, List.mem_append, List.mem_map, List.mem_singleton] at here
  rcases here with ⟨k₀, here₀, rfl⟩ | rfl
  · rw [Known.link_descriptor, List.filter_append, ← valid.linked recorded k₀ here₀]
    unfold Known.link
    split
    · next subclass => simp [subclass]
    · next other => simp [other]
  · rw [List.filter_append, List.filter_singleton, d.isSubclass_self, cond_false, List.append_nil]

theorem add (valid : store.Valid schema) {d : Descriptor} (unknown : store.find? d.name = none)
    (described : schema.describe? d.name = some d) : (store.add d).Valid schema := by
  refine ⟨valid.faithful.add described, ?_, ?_⟩
  · rw [Store.add_descriptors, List.map_append, List.map_singleton]
    refine valid.distinct.append (List.nodup_singleton _) ?_
    intro name here new
    obtain ⟨other, known, rfl⟩ := List.mem_map.mp here
    exact Store.find?_eq_none.mp unknown other known (List.mem_singleton.mp new)
  · rw [Store.add_linkage, Store.add_descriptors]
    exact valid.linked_add d

/-- A severed store records no edges that count. -/
theorem sever (valid : store.Valid schema) : store.sever.Valid schema :=
  ⟨valid.faithful, valid.distinct, fun recorded => absurd recorded (by simp)⟩

end Store.Valid

namespace Schema

variable {schema : Schema} {before after : Store}

/-- **Every move keeps a store valid.** -/
theorem Move.valid (move : schema.Move before after) (valid : before.Valid schema) :
    after.Valid schema := by
  cases move with
  | @create name d unknown described =>
    have named := name_of_describe? described
    subst named
    exact valid.add unknown described
  | declare => exact valid.remember _ _ _
  | borrow => exact (valid.remember _ _ _).remember _ _ _
  | describe => exact valid.addRole _ _

theorem Reaches.valid (reaches : schema.Reaches before after) (valid : before.Valid schema) :
    after.Valid schema :=
  reaches.keeps Move.valid valid

/-- **What a store remembers after a move.** It was remembered before, or the entity declares it, or
the entity has no type of its own and it is the first answer of its subclasses. -/
theorem Move.remembers (move : schema.Move before after) (valid : before.Valid schema)
    {d : Descriptor} {path : String} {type : QueryType} (known : d ∈ after.descriptors)
    (held : after.memo? d.name path = some type) :
    d ∈ before.descriptors ∧
      (before.memo? d.name path = some type ∨ d.declaredType? path = some type ∨
        (d.declaredType? path = none ∧
          ∃ e, before.firstAnswer? path (before.subclasses d) = some (e, type))) := by
  cases move with
  | @create name new unknown described =>
    have named := name_of_describe? described
    subst named
    rw [Store.memo?_add unknown] at held
    rw [Store.add_descriptors, List.mem_append, List.mem_singleton] at known
    rcases known with known | rfl
    · exact ⟨known, .inl held⟩
    · rw [Store.memo?_eq_none_of_find? unknown] at held
      cases held
  | declare there _ declared =>
    rw [Store.remember_descriptors] at known
    rcases Store.memo?_of_remember held with old | ⟨named, rfl, rfl⟩
    · exact ⟨known, .inl old⟩
    · have same := valid.eq_of_name known there named
      subst same
      exact ⟨known, .inr (.inl declared)⟩
  | @borrow d₀ e path₀ type₀ there _ undeclared first =>
    rw [Store.remember_descriptors, Store.remember_descriptors] at known
    rcases Store.memo?_of_remember held with held | ⟨named, rfl, rfl⟩
    · rcases Store.memo?_of_remember held with old | ⟨named, rfl, rfl⟩
      · exact ⟨known, .inl old⟩
      · -- the subclass remembers what it has answered by itself
        obtain ⟨seen, own⟩ := Store.mem_of_firstAnswer? first
        have same := valid.eq_of_name known (valid.mem_subclasses there seen).1 named
        subst same
        rcases Store.ownType?_eq_some own with old | ⟨_, declared⟩
        · exact ⟨known, .inl old⟩
        · exact ⟨known, .inr (.inl declared)⟩
    · have same := valid.eq_of_name known there named
      subst same
      exact ⟨known, .inr (.inr ⟨undeclared, e, first⟩)⟩
  | describe => exact ⟨known, .inl held⟩

/-- What every move from a valid store keeps, any number of moves from a valid store keep. -/
theorem Reaches.keeps_of_valid {holds : Store → Prop}
    (kept : ∀ {a b : Store}, a.Valid schema → schema.Move a b → holds a → holds b)
    (reaches : schema.Reaches before after) (valid : before.Valid schema)
    (start : holds before) : holds after := by
  have both : after.Valid schema ∧ holds after := by
    induction reaches with
    | refl => exact ⟨valid, start⟩
    | tail _ move ih => exact ⟨move.valid ih.1, kept ih.1 move ih.2⟩
  exact both.2

end Schema

end EntityQuery
