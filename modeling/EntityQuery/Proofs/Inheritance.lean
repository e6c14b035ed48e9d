import EntityQuery.Proofs.Agreement
import EntityQuery.Proofs.NearestDeclaration
import EntityQuery.Proofs.PropertyAnswers
import EntityQuery.Proofs.SubclassOrder

/-!
# Subclasses inherit all members

Whether an entity is a subclass of another, and which members an entity has, is found out by two
walks up one hierarchy. The one looks for a place, the other for a declaration, and each has its own
end. With one source they fit together: whoever is below another entity has every member that the
other has (`Session.members_inherited`).

It need not be the same member. The nearest declaration from below is that from above, unless it is
made on the way up, before the place of the other entity is met (`Nearest.of_above`). On a circle
there are many ways up to a place; what counts is the shortest one, which ends where the place is
met for the first time.

Only names without dots are spoken of. A path with dots goes into a component, and a subclass may
declare something else under the name of the component.
-/

namespace EntityQuery

/-! ## Declarations and members in a hierarchy -/

namespace Source

variable {source : Source}

/-- At this place the source itself declares the member, with a type: the class has the field and
discloses it, or the mapped entity has the property. -/
def Declares : Source → (place field : String) → MemberFact → Prop
  | .classes model => model.Discloses
  | .mapping document => document.Declares

theorem Declares.eq {place field : String} {fact fact' : MemberFact}
    (declared : source.Declares place field fact) (declared' : source.Declares place field fact') :
    fact = fact' := by
  cases source with
  | classes model => exact Option.some.inj (declared.2.symm.trans declared'.2)
  | mapping document =>
    have own := Mapping.ownProperty?_eq_some.mpr declared
    have own' := Mapping.ownProperty?_eq_some.mpr declared'
    exact Option.some.inj (own.symm.trans own')

/-- The place is met on the way up from `low`, and `high` is not met before it or there: it lies
between the two, `low` included and `high` excluded. -/
def Between (source : Source) (low high place : String) : Prop :=
  ∃ n, climb source.parent? n low = some place ∧
    ∀ k ≤ n, climb source.parent? k low ≠ some high

end Source

namespace Descriptor

variable {source : Source} {identifier : Identifier} {d e : Descriptor} {field : String}
  {fact : MemberFact}

/-- **The members of an entity are the nearest declarations from its place.** -/
theorem member?_eq_some (described : Schema.describe? ⟨[source], identifier⟩ d.name = some d) :
    d.member? field = some fact ↔ ∃ steps holder,
      Nearest source.parent? (source.Declares · field) d.place steps holder fact := by
  obtain ⟨shape, -⟩ := Schema.describe?_single described
  unfold member?
  cases source with
  | classes model =>
    obtain ⟨className, -, shape⟩ := Option.map_eq_some_iff.mp shape
    have place : d.place = className := place_of_class (by rw [← shape]; rfl)
    rw [← shape, place]
    exact ClassModel.inheritedFieldType?_eq_some
  | mapping document =>
    obtain ⟨_, -, shape⟩ := Option.map_eq_some_iff.mp shape
    rw [← shape, place_of_mapping shape.symm]
    exact Mapping.property?_eq_some

/-- **A subclass has every member of the entity**, the same one or one that is declared in
between. -/
theorem member?_of_isSubclass
    (describedD : Schema.describe? ⟨[source], identifier⟩ d.name = some d)
    (describedE : Schema.describe? ⟨[source], identifier⟩ e.name = some e)
    (subclass : d.isSubclass e) (member : d.member? field = some fact) :
    ∃ own, e.member? field = some own ∧ (own = fact ∨
      ∃ place, source.Between e.place d.place place ∧ source.Declares place field own) := by
  obtain ⟨-, below⟩ := (isSubclass_iff_below describedD describedE).mp subclass
  obtain ⟨n, reached⟩ := climb_iff_transGen.mpr below
  obtain ⟨_, _, above⟩ := (member?_eq_some describedD).mp member
  obtain ⟨steps, holder, own, nearest, met⟩ :=
    above.of_above (fun _ _ _ declared declared' => declared.eq declared') reached
  refine ⟨own, (member?_eq_some describedE).mpr ⟨steps, holder, nearest⟩, ?_⟩
  rcases met with same | before
  · exact .inl same
  · exact .inr ⟨holder, ⟨steps, nearest.reached, before⟩, nearest.declared⟩

/-- A path without dots leads to a member of the entity itself. -/
theorem declaredMember?_of_plain {name : String} (plain : '.' ∉ name.toList) :
    d.declaredMember? name = some fact ↔ name ≠ "" ∧ d.member? name = some fact := by
  unfold declaredMember? target?
  rw [Text.dotted_of_plain plain]
  dsimp only
  by_cases empty : name = ""
  · simp [empty]
  · rw [if_neg (by simpa using empty)]
    cases d.member? name <;> simp [follow, empty]

end Descriptor

/-- **Subclasses inherit all members.** Take a session with one source, in any state, open or
closed, and two known entities of which one is a subclass of the other. For every name without a dot
under which the entity has a member, declared or inherited, the subclass has a member, too, and its
answer is the type of this member. It is the same member, or it is declared, as the subclass has it,
by a class or mapped entity on the way up from the subclass, before that of the entity is met. -/
theorem Session.members_inherited (source : Source) (settings : Settings)
    (dialect : Function.Dialect) (sink : Sink) (requests : List Request) :
    let s := ((start [source] settings dialect sink).run requests).2
    ∀ d ∈ s.store.descriptors, ∀ e ∈ s.store.descriptors, d.isSubclass e →
      ∀ (name : String) (fact : MemberFact), '.' ∉ name.toList →
        d.declaredMember? name = some fact →
        ∃ own, e.declaredMember? name = some own ∧
          (own = fact ∨ ∃ place, source.Between e.place d.place place ∧
            source.Declares place name own) ∧
          (s.step (.entity e.name (.propertyType name))).answer =
            .optionalType (some (own.typeAt (Descriptor.roleOf e.name name))) := by
  intro s d here e there subclass name fact plain member
  have sound : s.Sound := (start_sound [source] settings dialect sink).run requests
  have faithful : ∀ k ∈ s.store.descriptors,
      Schema.describe? ⟨[source], settings.identifier⟩ k.name = some k :=
    (run_valid (start_valid [source] settings dialect sink) requests).faithful
  obtain ⟨named, member⟩ := (Descriptor.declaredMember?_of_plain plain).mp member
  obtain ⟨own, inherited, origin⟩ :=
    Descriptor.member?_of_isSubclass (faithful d here) (faithful e there) subclass member
  have declared := (Descriptor.declaredMember?_of_plain plain).mpr ⟨named, inherited⟩
  have typed := Descriptor.declaredType?_of_member declared
  have value := Descriptor.propertyType_of_declared sound.traced sound.valid there typed
  obtain ⟨answer, -⟩ := step_known_propertyType sound.valid there name
  rw [value] at answer
  exact ⟨own, declared, origin, answer⟩

/-- Ferries are craft, and have a crew because craft have one. It is the crew of a vessel, though,
which is met first on the way up. The draught is that of craft, since vessels do not disclose
theirs. -/
theorem Session.crew_of_ferry :
    let source : Source := .classes .fleet
    let requests : List Request := [.entity "Craft" .describe, .entity "Ferry" .describe]
    let s := ((start [source] {} .standard .collecting).run requests).2
    let entity (name : String) : Descriptor :=
      ⟨name, .introspected name .fleet, ⟨"id", .scalar .integer⟩⟩
    (entity "Craft" ∈ s.store.descriptors ∧ entity "Ferry" ∈ s.store.descriptors ∧
        (entity "Craft").isSubclass (entity "Ferry")) ∧
      (entity "Craft").declaredMember? "crew" = some (.basic "long") ∧
      (entity "Ferry").declaredMember? "crew" = some (.basic "int") ∧
      (∃ place, source.Between "Ferry" "Craft" place ∧
        source.Declares place "crew" (.basic "int")) ∧
      (s.step (.entity "Ferry" (.propertyType "crew"))).answer =
        .optionalType (some (.scalar .integer)) ∧
      (entity "Craft").declaredMember? "draught" = some (.basic "long") ∧
      (s.step (.entity "Ferry" (.propertyType "draught"))).answer =
        .optionalType (some (.scalar .long)) := by
  intro source requests s entity
  have valid := run_valid (start_valid [source] {} .standard .collecting) requests
  have names : s.store.descriptors.map (·.name) = ["Craft", "Ferry"] := by decide +kernel
  have listed : ∀ name ∈ ["Craft", "Ferry"],
      Schema.describe? ⟨[source], ⟨"id", .scalar .integer⟩⟩ name = some (entity name) →
      entity name ∈ s.store.descriptors := by
    intro name here described
    rw [← names] at here
    exact valid.mem_of_name here described
  have craft : entity "Craft" ∈ s.store.descriptors := listed "Craft" (by decide) rfl
  have ferry : entity "Ferry" ∈ s.store.descriptors := listed "Ferry" (by decide) rfl
  have subclass : (entity "Craft").isSubclass (entity "Ferry") := by decide +kernel
  have inherited := members_inherited source {} .standard .collecting requests (entity "Craft")
    craft (entity "Ferry") ferry subclass
  have crewOfCraft : (entity "Craft").declaredMember? "crew" = some (.basic "long") := rfl
  have crewOfFerry : (entity "Ferry").declaredMember? "crew" = some (.basic "int") := rfl
  have draughtOfCraft : (entity "Craft").declaredMember? "draught" = some (.basic "long") := rfl
  have draughtOfFerry : (entity "Ferry").declaredMember? "draught" = some (.basic "long") := rfl
  obtain ⟨crew, member, origin, answer⟩ := inherited "crew" _ (by decide) crewOfCraft
  obtain ⟨draught, member', -, answer'⟩ := inherited "draught" _ (by decide) draughtOfCraft
  rw [crewOfFerry] at member
  rw [draughtOfFerry] at member'
  cases member
  cases member'
  rcases origin with same | between
  · exact absurd (MemberFact.basic.inj same) (by decide)
  · exact ⟨⟨craft, ferry, subclass⟩, crewOfCraft, crewOfFerry, between, answer, draughtOfCraft,
      answer'⟩

end EntityQuery
