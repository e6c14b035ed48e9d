import EntityQuery.Store.Entity
import Mathlib.Data.List.Basic

/-!
# The laws of the store

What each operation of a store does to what can be read from it: the known descriptors, the
remembered types, the described roles and the linkage. Each law is an equation for one reading
after one operation, so that nothing later has to open an operation again.

Two facts carry most of the later proofs. Descriptors are found by name among the known ones, so a
name is unknown exactly when no known descriptor bears it (`find?_eq_none`). And a type that an
entity is told replaces the one that it remembers for the path and no other, so that nothing is lost
as long as a path that has a type is only ever told the same again (`memo?_remember_of_some`).
-/

namespace EntityQuery

namespace Known

@[simp] theorem remember_descriptor (k : Known) (path : String) (type : QueryType) :
    (k.remember path type).descriptor = k.descriptor := rfl

@[simp] theorem remember_recorded (k : Known) (path : String) (type : QueryType) :
    (k.remember path type).recorded = k.recorded := rfl

@[simp] theorem remember_name (k : Known) (path : String) (type : QueryType) :
    (k.remember path type).name = k.name := rfl

@[simp] theorem link_descriptor (k : Known) (d : Descriptor) :
    (k.link d).descriptor = k.descriptor := by
  unfold link
  split <;> rfl

@[simp] theorem link_memo (k : Known) (d : Descriptor) : (k.link d).memo = k.memo := by
  unfold link
  split <;> rfl

/-- The path has the new type, and all others have what they had. -/
theorem memo?_remember (k : Known) (path : String) (type : QueryType) (sought : String) :
    (k.remember path type).memo? sought = if sought = path then some type else k.memo? sought :=
  Table.lookup_place path type k.memo sought

end Known

namespace Store

variable {store : Store} {d e : Descriptor} {k : Known} {name path : String} {type : QueryType}

/-! ## Finding -/

theorem name_of_find? (found : store.find? name = some k) : k.name = name := by
  simpa using List.find?_some found

theorem mem_of_find? (found : store.find? name = some k) : k ∈ store.known :=
  List.mem_of_find?_eq_some found

/-- What is found by name is a known descriptor of that name. -/
theorem descriptor_of_find? (found : store.find? name = some k) :
    k.descriptor ∈ store.descriptors ∧ k.descriptor.name = name :=
  ⟨List.mem_map_of_mem (mem_of_find? found), name_of_find? found⟩

/-- Finding by name reads the descriptors alone. -/
theorem find?_descriptor (store : Store) (name : String) :
    (store.find? name).map (·.descriptor) = store.descriptors.find? (·.name = name) := by
  unfold find? descriptors
  rw [List.find?_map]
  rfl

/-- A name is unknown exactly when no known descriptor bears it. -/
theorem find?_eq_none : store.find? name = none ↔ ∀ d ∈ store.descriptors, d.name ≠ name := by
  rw [← Option.map_eq_none_iff, find?_descriptor, List.find?_eq_none]
  simp

theorem find?_isSome (known : d ∈ store.descriptors) : ∃ k, store.find? d.name = some k := by
  cases found : store.find? d.name with
  | some k => exact ⟨k, rfl⟩
  | none => exact absurd rfl (find?_eq_none.mp found d known)

theorem memo?_eq_none_of_find? (unknown : store.find? name = none) (path : String) :
    store.memo? name path = none := by
  unfold memo?
  rw [unknown]
  rfl

/-! ## Remembering a type -/

@[simp] theorem remember_linkage : (store.remember name path type).linkage = store.linkage := rfl

@[simp] theorem remember_roles : (store.remember name path type).roles = store.roles := rfl

@[simp] theorem remember_descriptors :
    (store.remember name path type).descriptors = store.descriptors := by
  unfold remember descriptors
  rw [List.map_map]
  refine List.map_congr_left fun k _ => ?_
  simp only [Function.comp_apply]
  split
  · exact k.remember_descriptor path type
  · rfl

theorem find?_remember (store : Store) (name path : String) (type : QueryType)
    (sought : String) :
    (store.remember name path type).find? sought =
      (store.find? sought).map fun k => if k.name = name then k.remember path type else k := by
  unfold find? remember
  rw [List.find?_map]
  congr 1
  refine congrArg (List.find? · store.known) (funext fun k => ?_)
  simp only [Function.comp_apply]
  split
  · rw [Known.remember_name]
  · rfl

/-- Remembering a type of one path leaves all other paths, and all other entities, alone. -/
theorem memo?_remember_of_ne {sought at' : String} (ne : sought ≠ name ∨ at' ≠ path) :
    (store.remember name path type).memo? sought at' = store.memo? sought at' := by
  unfold memo?
  rw [find?_remember]
  cases found : store.find? sought with
  | none => rfl
  | some k =>
    simp only [Option.map_some, Option.bind_some]
    by_cases same : k.name = name
    · have elsewhere : at' ≠ path := by
        refine ne.resolve_left fun differ => differ ?_
        rw [← same, name_of_find? found]
      rw [if_pos same, k.memo?_remember, if_neg elsewhere]
    · rw [if_neg same]

/-- A known entity remembers what it is told. -/
theorem memo?_remember_self (known : d ∈ store.descriptors) (path : String) (type : QueryType) :
    (store.remember d.name path type).memo? d.name path = some type := by
  obtain ⟨k, found⟩ := find?_isSome known
  unfold memo?
  rw [find?_remember, found]
  simp only [Option.map_some, Option.bind_some]
  rw [if_pos (name_of_find? found), k.memo?_remember, if_pos rfl]

/-- An entity that is told nothing other than what it remembers loses nothing, and neither does any
other entity. -/
theorem memo?_remember_of_some {sought at' : String} {kept : QueryType}
    (told : ∀ held, store.memo? name path = some held → held = type)
    (before : store.memo? sought at' = some kept) :
    (store.remember name path type).memo? sought at' = some kept := by
  by_cases same : sought = name ∧ at' = path
  · obtain ⟨rfl, rfl⟩ := same
    cases found : store.find? sought with
    | none => simp [memo?_eq_none_of_find? found] at before
    | some k =>
      obtain ⟨known, named⟩ := descriptor_of_find? found
      subst named
      rw [memo?_remember_self known, told kept before]
  · rw [memo?_remember_of_ne (Decidable.not_and_iff_not_or_not.mp same), before]

/-- What is remembered afterwards was remembered before, or has just been told. -/
theorem memo?_of_remember {sought at' : String} {held : QueryType}
    (after : (store.remember name path type).memo? sought at' = some held) :
    store.memo? sought at' = some held ∨ (sought = name ∧ at' = path ∧ held = type) := by
  by_cases same : sought = name ∧ at' = path
  · obtain ⟨rfl, rfl⟩ := same
    cases found : store.find? sought with
    | none =>
      rw [memo?_eq_none_of_find? (by rw [find?_remember, found]; rfl)] at after
      exact absurd after (by simp)
    | some k =>
      obtain ⟨known, named⟩ := descriptor_of_find? found
      subst named
      rw [memo?_remember_self known] at after
      exact .inr ⟨rfl, rfl, (Option.some.inj after).symm⟩
  · rw [memo?_remember_of_ne (Decidable.not_and_iff_not_or_not.mp same)] at after
    exact .inl after

/-! ## Making a descriptor known -/

@[simp] theorem add_linkage : (store.add d).linkage = store.linkage := by
  unfold add
  split <;> rfl

@[simp] theorem add_roles : (store.add d).roles = store.roles := by
  unfold add
  split <;> rfl

/-- Whether or not edges are recorded, the known entities keep their descriptors and what they
remember, and one that remembers nothing is put at the end. -/
theorem add_known (store : Store) (d : Descriptor) :
    ∃ (mark : Known → Known) (new : Known), (store.add d).known = store.known.map mark ++ [new] ∧
      (∀ k, (mark k).descriptor = k.descriptor ∧ (mark k).memo = k.memo) ∧
      new.descriptor = d ∧ new.memo = [] := by
  unfold add
  split
  · exact ⟨(·.link d), _, rfl, fun k => ⟨k.link_descriptor d, k.link_memo d⟩, rfl, rfl⟩
  · exact ⟨id, { descriptor := d }, by rw [List.map_id], fun _ => ⟨rfl, rfl⟩, rfl, rfl⟩

@[simp] theorem add_descriptors : (store.add d).descriptors = store.descriptors ++ [d] := by
  obtain ⟨mark, new, eq, marked, rfl, -⟩ := add_known store d
  unfold descriptors
  rw [eq, List.map_append, List.map_map]
  exact congrArg (· ++ _) (List.map_congr_left fun k _ => (marked k).1)

/-- A new descriptor comes with no remembered types, and takes none away. -/
theorem memo?_add (unknown : store.find? d.name = none) (name path : String) :
    (store.add d).memo? name path = store.memo? name path := by
  obtain ⟨mark, new, eq, marked, rfl, blank⟩ := add_known store d
  have named : (fun k : Known => decide ((mark k).name = name)) = (decide <| ·.name = name) :=
    funext fun k => by rw [Known.name, (marked k).1, Known.name]
  have recalled : ∀ k : Known, (mark k).memo? path = k.memo? path :=
    fun k => by rw [Known.memo?, (marked k).2, Known.memo?]
  unfold memo? find?
  rw [eq, List.find?_append, List.find?_map, Function.comp_def, named]
  cases found : store.known.find? (·.name = name) with
  | some k => exact recalled k
  | none =>
    -- only the new entity can bear the name, and it remembers nothing
    by_cases own : new.name = name
    · simp [own, Known.memo?, blank]
    · simp [own]

/-! ## Remembering a role, and closing -/

@[simp] theorem addRole_linkage (role : String) (r : Collection.Role) :
    (store.addRole role r).linkage = store.linkage := rfl

@[simp] theorem addRole_known (role : String) (r : Collection.Role) :
    (store.addRole role r).known = store.known := rfl

@[simp] theorem addRole_descriptors (role : String) (r : Collection.Role) :
    (store.addRole role r).descriptors = store.descriptors := rfl

@[simp] theorem addRole_memo? (role : String) (r : Collection.Role) (name path : String) :
    (store.addRole role r).memo? name path = store.memo? name path := rfl

@[simp] theorem sever_linkage : store.sever.linkage = .severed := rfl

@[simp] theorem sever_known : store.sever.known = store.known := rfl

@[simp] theorem sever_descriptors : store.sever.descriptors = store.descriptors := rfl

@[simp] theorem sever_memo? (name path : String) :
    store.sever.memo? name path = store.memo? name path := rfl

/-! ## What entities answer by themselves -/

theorem ownType?_eq_some (own : store.ownType? d path = some type) :
    store.memo? d.name path = some type ∨
      (store.memo? d.name path = none ∧ d.declaredType? path = some type) := by
  unfold ownType? at own
  cases held : store.memo? d.name path with
  | some kept =>
    rw [held] at own
    exact .inl own
  | none =>
    rw [held] at own
    exact .inr ⟨rfl, own⟩

theorem ownType?_eq_none :
    store.ownType? d path = none ↔
      store.memo? d.name path = none ∧ d.declaredType? path = none := by
  unfold ownType?
  rw [Option.or_eq_none_iff]

/-- The first answer is that of an entity before which there is none. -/
theorem firstAnswer?_eq_some {ds : List Descriptor} :
    store.firstAnswer? path ds = some (e, type) ↔
      ∃ before after, ds = before ++ e :: after ∧ store.ownType? e path = some type ∧
        ∀ d ∈ before, store.ownType? d path = none := by
  unfold firstAnswer?
  rw [List.findSome?_eq_some_iff]
  constructor
  · rintro ⟨before, here, after, eq, answer, nothing⟩
    obtain ⟨_, own, same⟩ := Option.map_eq_some_iff.mp answer
    cases same
    exact ⟨before, after, eq, own, fun d early => Option.map_eq_none_iff.mp (nothing d early)⟩
  · rintro ⟨before, after, eq, own, nothing⟩
    refine ⟨before, e, after, eq, ?_, fun d early => Option.map_eq_none_iff.mpr (nothing d early)⟩
    rw [own]
    rfl

theorem mem_of_firstAnswer? {ds : List Descriptor}
    (first : store.firstAnswer? path ds = some (e, type)) :
    e ∈ ds ∧ store.ownType? e path = some type := by
  obtain ⟨before, after, rfl, own, -⟩ := firstAnswer?_eq_some.mp first
  exact ⟨List.mem_append_right _ List.mem_cons_self, own⟩

theorem firstAnswer?_eq_none {ds : List Descriptor} :
    store.firstAnswer? path ds = none ↔ ∀ d ∈ ds, store.ownType? d path = none := by
  unfold firstAnswer?
  rw [List.findSome?_eq_none_iff]
  simp only [Option.map_eq_none_iff]

theorem firstAnswer?_type (store : Store) (path : String) (ds : List Descriptor) :
    (store.firstAnswer? path ds).map (·.2) = ds.findSome? (store.ownType? · path) := by
  unfold firstAnswer?
  rw [List.map_findSome?]
  congr 1
  funext d
  cases own : store.ownType? d path with
  | none => simp [own]
  | some type => simp [own]

end Store

end EntityQuery
