import EntityQuery.Proofs.Sessions

/-!
# Where answers come from

An entity that has no type for a path of its own borrows one from a subclass, which may have
borrowed it before. `Descriptor.Provides` follows such a chain of subclasses down to an entity that
declares the type itself. A store is traced if all that it remembers can be followed in this way;
every store of a session is (`Session.run_traced`).

From this come the laws of property types that hold whatever was asked before: an entity's own type
always wins, any answer is provided for, and there is an answer as soon as a known subclass
declares the path.
-/

namespace EntityQuery

/-- **The entity has the type at the path, of its own or from below.** Of its own means declared or
inherited. An entity without a type of its own may have that of any known subclass. -/
inductive Descriptor.Provides (known : List Descriptor) (path : String) (type : QueryType) :
    Descriptor → Prop
  | own {d : Descriptor} : d.declaredType? path = some type → Provides known path type d
  | borrowed {d e : Descriptor} : d.declaredType? path = none → e ∈ known → d.isSubclass e →
      Provides known path type e → Provides known path type d

namespace Descriptor.Provides

variable {known more : List Descriptor} {d : Descriptor} {path : String} {type : QueryType}

theorem mono (provides : d.Provides known path type) (subset : known ⊆ more) :
    d.Provides more path type := by
  induction provides with
  | own declared => exact .own declared
  | borrowed undeclared here subclass _ ih => exact .borrowed undeclared (subset here) subclass ih

/-- An entity with a type of its own provides no other. -/
theorem eq_of_declared {other : QueryType} (provides : d.Provides known path type)
    (declared : d.declaredType? path = some other) : type = other := by
  cases provides with
  | own declared' =>
    rw [declared] at declared'
    exact (Option.some.inj declared').symm
  | borrowed undeclared =>
    rw [declared] at undeclared
    cases undeclared

end Descriptor.Provides

/-- All that the store remembers is provided for. -/
def Store.Traced (store : Store) : Prop :=
  ∀ d ∈ store.descriptors, ∀ {path : String} {type : QueryType},
    store.memo? d.name path = some type → d.Provides store.descriptors path type

namespace Store

variable {schema : Schema} {store : Store} {d e : Descriptor} {path : String} {type : QueryType}

namespace Traced

theorem of_ownType? (traced : store.Traced) (known : d ∈ store.descriptors)
    (own : store.ownType? d path = some type) : d.Provides store.descriptors path type := by
  rcases ownType?_eq_some own with held | ⟨_, declared⟩
  · exact traced d known held
  · exact .own declared

/-- An answer borrowed from a subclass is provided for. -/
theorem of_firstAnswer? (traced : store.Traced) (valid : store.Valid schema)
    (known : d ∈ store.descriptors) (undeclared : d.declaredType? path = none)
    (first : store.firstAnswer? path (store.subclasses d) = some (e, type)) :
    d.Provides store.descriptors path type := by
  obtain ⟨seen, own⟩ := mem_of_firstAnswer? first
  obtain ⟨here, subclass⟩ := valid.mem_subclasses known seen
  exact .borrowed undeclared here subclass (traced.of_ownType? here own)

end Traced

end Store

/-! ## Every store is traced -/

/-- Every move keeps a valid store traced. -/
theorem Schema.Move.traced {schema : Schema} {before after : Store} (move : schema.Move before after)
    (valid : before.Valid schema) (traced : before.Traced) : after.Traced := by
  intro d known path type held
  have grown : before.descriptors ⊆ after.descriptors := move.grows.descriptors.subset
  obtain ⟨known', old | declared | ⟨undeclared, _, first⟩⟩ := move.remembers valid known held
  · exact (traced d known' old).mono grown
  · exact .own declared
  · exact (traced.of_firstAnswer? valid known' undeclared first).mono grown

/-- **Every store of a session is traced.** -/
theorem Session.run_traced {s : Session} (valid : s.store.Valid s.schema) (traced : s.store.Traced)
    (requests : List Request) : (s.run requests).2.store.Traced :=
  (run_keeps Store.Traced (fun valid move traced => move.traced valid traced)
    (fun traced => traced) valid traced requests).2

theorem Session.start_traced (sources : List Source) (settings : Settings)
    (dialect : Function.Dialect) (sink : Sink) :
    (start sources settings dialect sink).store.Traced := by
  intro d known
  exact absurd known List.not_mem_nil

/-! ## The laws of property types -/

namespace Descriptor

variable {schema : Schema} {store : Store} {d e : Descriptor} {path : String} {type : QueryType}

/-- Any answer is provided for. -/
theorem propertyType_provides (traced : store.Traced) (valid : store.Valid schema)
    (known : d ∈ store.descriptors) (answered : (d.propertyType path store).value = some type) :
    d.Provides store.descriptors path type := by
  rcases propertyType_eq_some answered with ⟨held, _⟩ | ⟨_, declared, _⟩ |
    ⟨_, _, undeclared, first, _⟩
  · exact traced d known held
  · exact .own declared
  · exact traced.of_firstAnswer? valid known undeclared first

/-- **An entity's own type wins**, whatever the entity remembers and whatever is below it. -/
theorem propertyType_of_declared (traced : store.Traced) (valid : store.Valid schema)
    (known : d ∈ store.descriptors) (declared : d.declaredType? path = some type) :
    (d.propertyType path store).value = some type := by
  cases value : (d.propertyType path store).value with
  | some answer =>
    have provides := propertyType_provides traced valid known value
    rw [provides.eq_of_declared declared]
  | none =>
    rw [(propertyType_eq_none value).1] at declared
    cases declared

/-- There is an answer if a known subclass declares the path. -/
theorem propertyType_of_subclass (valid : store.Valid schema) (alive : store.linkage ≠ .severed)
    (known : d ∈ store.descriptors) (here : e ∈ store.descriptors) (subclass : d.isSubclass e)
    (declared : (e.declaredType? path).isSome) : (d.propertyType path store).value.isSome := by
  cases value : (d.propertyType path store).value with
  | some answer => rfl
  | none =>
    obtain ⟨-, nothing, -⟩ := propertyType_eq_none value
    rw [valid.subclasses_eq alive known, Store.firstAnswer?_eq_none] at nothing
    have silent := nothing e (List.mem_filter.mpr ⟨here, subclass⟩)
    rw [(Store.ownType?_eq_none.mp silent).2] at declared
    cases declared

end Descriptor

end EntityQuery
