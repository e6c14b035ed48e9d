import EntityQuery.Proofs.Provenance
import Mathlib.Data.List.TakeWhile

/-!
# When memory shows

An entity could answer without any memory: with its own type, or else with that of the first known
subclass, in the order of creation, that declares the path. This is `Descriptor.plainType?`.

Memory does not always come to the same. A subclass that declares nothing here may have borrowed an
answer from further down. If it was created before the first subclass that declares the path, it is
asked first, and it passes on what it remembers (`Session.memory_shows`). That is the only way in
which memory shows. An entity is *undisturbed* if none of the subclasses ahead of the first one that
declares the path remembers anything for it, and an undisturbed entity gives the plain answer.

What carries the proof is that a disturbance lasts: the subclasses ahead stay ahead, since later
ones are put behind them, and what they remember stays. So an entity that is undisturbed now was so
when it found the answer that it remembers.
-/

namespace EntityQuery

namespace Descriptor

variable {known more : List Descriptor} {d e : Descriptor} {path : String} {type : QueryType}

/-- **The answer without memory**: the entity's own type, or else that of the first known subclass
that declares the path. -/
def plainType? (known : List Descriptor) (d : Descriptor) (path : String) : Option QueryType :=
  (d.declaredType? path).or ((known.filter d.isSubclass).findSome? (·.declaredType? path))

/-- The subclasses ahead of the first one that declares the path. -/
def ahead (known : List Descriptor) (d : Descriptor) (path : String) : List Descriptor :=
  (known.filter d.isSubclass).takeWhile fun e => (e.declaredType? path).isNone

theorem plainType?_of_declared (declared : d.declaredType? path = some type) :
    plainType? known d path = some type := by
  unfold plainType?
  rw [declared]
  rfl

theorem plainType?_of_undeclared (undeclared : d.declaredType? path = none) :
    plainType? known d path =
      (known.filter d.isSubclass).findSome? (·.declaredType? path) := by
  unfold plainType?
  rw [undeclared]
  rfl

/-- Entities that become known later do not change a plain answer. -/
theorem plainType?_append (plain : plainType? known d path = some type) :
    plainType? (known ++ more) d path = some type := by
  cases declared : d.declaredType? path with
  | some own =>
    rw [plainType?_of_declared declared] at plain ⊢
    exact plain
  | none =>
    rw [plainType?_of_undeclared declared] at plain ⊢
    rw [List.filter_append, List.findSome?_append, plain]
    rfl

/-- Entities that become known later are put behind those that are ahead. -/
theorem ahead_append : ahead known d path ⊆ ahead (known ++ more) d path := by
  intro e early
  unfold ahead at early ⊢
  rw [List.filter_append, List.takeWhile_append]
  split
  · exact List.mem_append_left _ ((List.takeWhile_prefix _).subset early)
  · exact early

/-- An entity that declares nothing is ahead if none before it declares the path. -/
theorem mem_ahead {before after : List Descriptor}
    (order : known.filter d.isSubclass = before ++ e :: after)
    (undeclared : ∀ x ∈ before ++ [e], x.declaredType? path = none) :
    e ∈ ahead known d path := by
  have split : before ++ e :: after = (before ++ [e]) ++ after := by
    rw [List.append_assoc]
    rfl
  unfold ahead
  rw [order, split, List.takeWhile_append_of_pos]
  · exact List.mem_append_left _ (List.mem_append_right _ (List.mem_singleton_self e))
  · intro x here
    rw [undeclared x here]
    rfl

end Descriptor

namespace Store

variable {schema : Schema} {store before after : Store} {d e : Descriptor} {path : String}
  {type : QueryType}

/-- **None of the subclasses ahead remembers anything for the path.** -/
def Undisturbed (store : Store) (d : Descriptor) (path : String) : Prop :=
  ∀ e ∈ Descriptor.ahead store.descriptors d path, store.memo? e.name path = none

instance (store : Store) (d : Descriptor) (path : String) :
    Decidable (store.Undisturbed d path) :=
  inferInstanceAs (Decidable (∀ e ∈ Descriptor.ahead store.descriptors d path, _ = none))

/-- An entity that is undisturbed has been so from the start. -/
theorem Undisturbed.earlier (grows : before.Grows after) (undisturbed : after.Undisturbed d path) :
    before.Undisturbed d path := by
  intro e early
  obtain ⟨more, eq⟩ := grows.descriptors
  have late : e ∈ Descriptor.ahead after.descriptors d path := by
    rw [← eq]
    exact Descriptor.ahead_append early
  cases held : before.memo? e.name path with
  | none => rfl
  | some type =>
    have kept := grows.memo held
    rw [undisturbed e late] at kept
    cases kept

/-- The first answer of the subclasses of an undisturbed entity is the plain one. -/
theorem Undisturbed.firstAnswer? (undisturbed : store.Undisturbed d path) (traced : store.Traced)
    (undeclared : d.declaredType? path = none)
    (first : store.firstAnswer? path (store.descriptors.filter d.isSubclass) = some (e, type)) :
    Descriptor.plainType? store.descriptors d path = some type := by
  obtain ⟨before, after, order, own, nothing⟩ := firstAnswer?_eq_some.mp first
  have silent : ∀ x ∈ before, x.declaredType? path = none :=
    fun x early => (ownType?_eq_none.mp (nothing x early)).2
  have here : e ∈ store.descriptors := (List.mem_filter.mp (mem_of_firstAnswer? first).1).1
  -- were it not for its own declaration, the one that answers would be ahead and disturb
  have declares : e.declaredType? path = some type := by
    rcases ownType?_eq_some own with held | ⟨_, declared⟩
    · cases declared : e.declaredType? path with
      | some other => rw [(traced e here held).eq_of_declared declared]
      | none =>
        have early : e ∈ Descriptor.ahead store.descriptors d path := by
          refine Descriptor.mem_ahead order fun x among => ?_
          rcases List.mem_append.mp among with early | last
          · exact silent x early
          · rw [List.mem_singleton.mp last]
            exact declared
        rw [undisturbed e early] at held
        cases held
    · exact declared
  rw [Descriptor.plainType?_of_undeclared undeclared, List.findSome?_eq_some_iff]
  exact ⟨before, e, after, order, declares, silent⟩

/-- What an undisturbed entity remembers is the plain answer. -/
def Transparent (store : Store) : Prop :=
  ∀ d ∈ store.descriptors, ∀ {path : String} {type : QueryType},
    store.memo? d.name path = some type → store.Undisturbed d path →
    Descriptor.plainType? store.descriptors d path = some type

/-- Only a store that is not severed has subclasses that answer. -/
theorem Valid.subclasses_of_firstAnswer? (valid : store.Valid schema)
    (known : d ∈ store.descriptors)
    (first : store.firstAnswer? path (store.subclasses d) = some (e, type)) :
    store.subclasses d = store.descriptors.filter d.isSubclass := by
  refine valid.subclasses_eq ?_ known
  intro severed
  have none : store.subclasses d = [] := by
    unfold subclasses
    rw [severed]
  rw [none] at first
  cases first

end Store

/-- Every move keeps a valid store transparent. -/
theorem Schema.Move.transparent {schema : Schema} {before after : Store}
    (move : schema.Move before after) (valid : before.Valid schema) (traced : before.Traced)
    (transparent : before.Transparent) : after.Transparent := by
  intro d known path type held undisturbed
  have earlier := undisturbed.earlier move.grows
  obtain ⟨more, eq⟩ := move.grows.descriptors
  obtain ⟨known', remembered⟩ := move.remembers valid known held
  have plain : Descriptor.plainType? before.descriptors d path = some type := by
    rcases remembered with old | declared | ⟨undeclared, _, first⟩
    · exact transparent d known' old earlier
    · exact Descriptor.plainType?_of_declared declared
    · rw [valid.subclasses_of_firstAnswer? known' first] at first
      exact earlier.firstAnswer? traced undeclared first
  rw [← eq]
  exact Descriptor.plainType?_append plain

namespace Session

theorem run_transparent {s : Session} (valid : s.store.Valid s.schema) (traced : s.store.Traced)
    (transparent : s.store.Transparent) (requests : List Request) :
    (s.run requests).2.store.Transparent := by
  have both := (run_keeps (fun store => store.Traced ∧ store.Transparent)
    (fun valid move held => ⟨move.traced valid held.1, move.transparent valid held.1 held.2⟩)
    (fun held => held) valid ⟨traced, transparent⟩ requests).2
  exact both.2

theorem start_transparent (sources : List Source) (settings : Settings)
    (dialect : Function.Dialect) (sink : Sink) :
    (start sources settings dialect sink).store.Transparent := by
  intro d known
  exact absurd known List.not_mem_nil

end Session

namespace Descriptor

variable {schema : Schema} {store : Store} {d : Descriptor} {path : String}

/-- **An undisturbed entity gives the plain answer.** -/
theorem propertyType_eq_plainType? (valid : store.Valid schema) (traced : store.Traced)
    (transparent : store.Transparent) (alive : store.linkage ≠ .severed)
    (known : d ∈ store.descriptors) (undisturbed : store.Undisturbed d path) :
    (d.propertyType path store).value = plainType? store.descriptors d path := by
  cases value : (d.propertyType path store).value with
  | some type =>
    rcases propertyType_eq_some value with ⟨held, _⟩ | ⟨_, declared, _⟩ |
      ⟨_, _, undeclared, first, _⟩
    · exact (transparent d known held undisturbed).symm
    · exact (plainType?_of_declared declared).symm
    · rw [valid.subclasses_eq alive known] at first
      exact (undisturbed.firstAnswer? traced undeclared first).symm
  | none =>
    obtain ⟨undeclared, nothing, -⟩ := propertyType_eq_none value
    rw [valid.subclasses_eq alive known, Store.firstAnswer?_eq_none] at nothing
    rw [plainType?_of_undeclared undeclared, eq_comm, List.findSome?_eq_none_iff]
    intro e subclass
    exact (Store.ownType?_eq_none.mp (nothing e subclass)).2

/-- Disturbed or not, there is an answer where there is a plain one. -/
theorem propertyType_of_plainType? (valid : store.Valid schema) (traced : store.Traced)
    (alive : store.linkage ≠ .severed) (known : d ∈ store.descriptors)
    (plain : (plainType? store.descriptors d path).isSome) :
    (d.propertyType path store).value.isSome := by
  cases declared : d.declaredType? path with
  | some type =>
    rw [propertyType_of_declared traced valid known declared]
    rfl
  | none =>
    rw [plainType?_of_undeclared declared] at plain
    obtain ⟨e, listed, declares⟩ := List.findSome?_isSome_iff.mp plain
    obtain ⟨here, subclass⟩ := List.mem_filter.mp listed
    exact propertyType_of_subclass valid alive known here subclass declares

/-- **A disturbed entity passes on what is remembered ahead**, if it remembers nothing itself and
has no type of its own. -/
theorem propertyType_of_disturbed (valid : store.Valid schema) (alive : store.linkage ≠ .severed)
    (known : d ∈ store.descriptors) (forgot : store.memo? d.name path = none)
    (undeclared : d.declaredType? path = none) (disturbed : ¬ store.Undisturbed d path) :
    (d.propertyType path store).value =
      (ahead store.descriptors d path).findSome? (store.memo? ·.name path) := by
  have asked : (d.propertyType path store).value =
      (store.descriptors.filter d.isSubclass).findSome? (store.ownType? · path) := by
    rw [← Store.firstAnswer?_type, ← valid.subclasses_eq alive known]
    simp only [propertyType, forgot, undeclared]
    cases store.firstAnswer? path (store.subclasses d) with
    | some answer => rfl
    | none => rfl
  have own : ∀ e ∈ ahead store.descriptors d path,
      store.ownType? e path = store.memo? e.name path := by
    intro e early
    have silent := List.mem_takeWhile_imp early
    unfold Store.ownType?
    rw [Option.isNone_iff_eq_none.mp silent, Option.or_none]
  cases found : (ahead store.descriptors d path).findSome? (store.memo? ·.name path) with
  | none => exact absurd (List.findSome?_eq_none_iff.mp found) disturbed
  | some type =>
    have first : (ahead store.descriptors d path).findSome? (store.ownType? · path) =
        some type := by
      obtain ⟨before, e, after, order, held, nothing⟩ := List.findSome?_eq_some_iff.mp found
      refine List.findSome?_eq_some_iff.mpr ⟨before, e, after, order, ?_, ?_⟩
      · rw [own e (by simp [order])]
        exact held
      · intro x early
        rw [own x (by simp [order, early])]
        exact nothing x early
    obtain ⟨rest, order⟩ : ahead store.descriptors d path <+:
      store.descriptors.filter d.isSubclass := List.takeWhile_prefix _
    rw [asked, ← order, List.findSome?_append, first]
    rfl

end Descriptor

namespace Session

/-- **Memory shows only through the subclasses ahead.** In every open session, an undisturbed known
entity gives the plain answer, and so two sessions that know the same entities agree on it. In any
case an entity's own type wins, there is an answer where there is a plain one, and the answer is
provided for. A disturbed entity that has not answered yet gives what is remembered by the first of
the subclasses ahead that remembers anything. -/
theorem propertyType_transparent (sources : List Source) (settings : Settings)
    (dialect : Function.Dialect) (sink : Sink) (requests : List Request)
    (isOpen : ((start sources settings dialect sink).run requests).2.isOpen) :
    let store := ((start sources settings dialect sink).run requests).2.store
    ∀ d ∈ store.descriptors, ∀ path : String,
      (store.Undisturbed d path →
        (d.propertyType path store).value = d.plainType? store.descriptors path) ∧
      (∀ type, d.declaredType? path = some type → (d.propertyType path store).value = some type) ∧
      ((d.plainType? store.descriptors path).isSome → (d.propertyType path store).value.isSome) ∧
      (∀ type, (d.propertyType path store).value = some type →
        d.Provides store.descriptors path type) ∧
      (store.memo? d.name path = none → d.declaredType? path = none →
        ¬ store.Undisturbed d path →
        (d.propertyType path store).value =
          (d.ahead store.descriptors path).findSome? (store.memo? ·.name path)) ∧
      (∀ others : List Request,
        let other := ((start sources settings dialect sink).run others).2
        other.isOpen → other.store.descriptors = store.descriptors →
        store.Undisturbed d path → other.store.Undisturbed d path →
        (d.propertyType path other.store).value = (d.propertyType path store).value) := by
  intro store d known path
  have fresh := start_valid sources settings dialect sink
  have clear := start_traced sources settings dialect sink
  have plain := start_transparent sources settings dialect sink
  have valid := run_valid fresh requests
  have traced := run_traced fresh clear requests
  have transparent := run_transparent fresh clear plain requests
  have alive := isOpen_iff.mp isOpen
  refine ⟨?_, ?_, ?_, ?_, ?_, ?_⟩
  · exact Descriptor.propertyType_eq_plainType? valid traced transparent alive known
  · intro type
    exact Descriptor.propertyType_of_declared traced valid known
  · exact Descriptor.propertyType_of_plainType? valid traced alive known
  · intro type
    exact Descriptor.propertyType_provides traced valid known
  · exact Descriptor.propertyType_of_disturbed valid alive known
  · intro others other isOpen' same here there
    have known' : d ∈ other.store.descriptors := by
      rw [same]
      exact known
    rw [Descriptor.propertyType_eq_plainType? valid traced transparent alive known here,
      Descriptor.propertyType_eq_plainType? (run_valid fresh others)
        (run_traced fresh clear others) (run_transparent fresh clear plain others)
        (isOpen_iff.mp isOpen') known' there, same]

/-- Vehicles, and below them trucks and ships. The load of a ship is a number. Trucks have no load,
but tankers, which are trucks, have one that is a text. -/
def fleet : Mapping :=
  ([{ name := "Vehicle" },
    { name := "Truck", parent := some "Vehicle" },
    { name := "Ship", parent := some "Vehicle", properties := .ofList [("load", .basic "int")] },
    { name := "Tanker", parent := some "Truck",
      properties := .ofList [("load", .basic "String")] }] : List MappedEntity).foldl
    Mapping.addEntity .empty

/-- Asked before any truck, vehicles get their load from ships, and keep it. -/
theorem load_of_vehicles :
    let store := ((start [.mapping fleet] {} .standard .collecting).run
      [.entity "Vehicle" .describe, .entity "Truck" .describe, .entity "Ship" .describe,
        .entity "Tanker" .describe, .entity "Vehicle" (.propertyType "load")]).2.store
    let vehicle : Descriptor := ⟨"Vehicle", .mapped fleet, ⟨"id", .scalar .integer⟩⟩
    vehicle ∈ store.descriptors ∧ store.Undisturbed vehicle "load" ∧
      (vehicle.propertyType "load" store).value = vehicle.plainType? store.descriptors "load" ∧
      vehicle.plainType? store.descriptors "load" = some (.scalar .integer) := by
  intro store vehicle
  have known : vehicle ∈ store.descriptors := List.mem_of_getElem? (i := 0) rfl
  have undisturbed : store.Undisturbed vehicle "load" := by decide +kernel
  have value := (propertyType_transparent _ _ _ _ _ (by decide +kernel) vehicle known "load").1
  exact ⟨known, undisturbed, value undisturbed, by decide +kernel⟩

/-- **Memory shows**: once trucks have been asked for their load, so that they remember that of
tankers, vehicles get their load from trucks, although ships declare one and are known. -/
theorem memory_shows :
    let entities : List Request :=
      [.entity "Vehicle" .describe, .entity "Truck" .describe, .entity "Ship" .describe,
        .entity "Tanker" .describe]
    let trucks : Request := .entity "Truck" (.propertyType "load")
    let before := ((start [.mapping fleet] {} .standard .collecting).run entities).2
    let after := ((start [.mapping fleet] {} .standard .collecting).run (entities ++ [trucks])).2
    let vehicle : Descriptor := ⟨"Vehicle", .mapped fleet, ⟨"id", .scalar .integer⟩⟩
    before.isOpen ∧ after.isOpen ∧ after.store.descriptors = before.store.descriptors ∧
      vehicle ∈ after.store.descriptors ∧
      vehicle.plainType? after.store.descriptors "load" = some (.scalar .integer) ∧
      (vehicle.propertyType "load" before.store).value = some (.scalar .integer) ∧
      (vehicle.propertyType "load" after.store).value = some (.scalar .string) := by
  intro entities trucks before after vehicle
  refine ⟨by decide +kernel, by decide +kernel, rfl, List.mem_of_getElem? (i := 0) rfl, ?_, ?_, ?_⟩
  · decide +kernel
  · decide +kernel
  · decide +kernel

end Session

end EntityQuery
