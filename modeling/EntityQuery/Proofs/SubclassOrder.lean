import EntityQuery.Proofs.Fallback
import Mathlib.Logic.Relation

/-!
# The order of subclasses

A class model says of a class what its superclass is, and a mapping says of an entity what its
parent is. Descent, of classes and of mapped entities, is the transitive closure of these steps up,
also where they run in a circle.

Between descriptors a name and a class more have to be told apart: an entity can be known under two
names that lead to one class. With one source all of this comes down to one relation between the
places that the entities have in the hierarchy (`Descriptor.isSubclass_iff_below`). If the hierarchy
has no circles, then subclasses are exactly what is below, and being a subclass is a strict partial
order (`Session.subclasses_ordered`). On a circle it is not: two classes that extend each other are
subclasses of each other, and a chain of subclasses may come back to where it started.
-/

namespace EntityQuery

/-- **To climb is to go up step by step**: a climb of one step or more leads exactly to what the
transitive closure of single steps relates the name to. -/
theorem climb_iff_transGen {parent : String → Option String} {name top : String} :
    (∃ n, climb parent (n + 1) name = some top) ↔
      Relation.TransGen (fun below above => parent below = some above) name top := by
  constructor
  · rintro ⟨n, reached⟩
    induction n generalizing name with
    | zero => exact .single (by simpa [climb] using reached)
    | succ n ih =>
      rw [climb_succ] at reached
      obtain ⟨above, step, onward⟩ := Option.bind_eq_some_iff.mp reached
      exact .head step (ih onward)
  · intro chain
    induction chain using Relation.TransGen.head_induction_on with
    | single step => exact ⟨0, by simpa [climb] using step⟩
    | head step _ ih =>
      obtain ⟨n, reached⟩ := ih
      refine ⟨n + 1, ?_⟩
      rw [climb_succ, step]
      exact reached

/-- The descent of classes is the transitive closure of the steps to the superclass. -/
theorem ClassModel.descendsFrom_iff_transGen {model : ClassModel} {className ancestor : String} :
    model.descendsFrom className ancestor ↔ Relation.TransGen
      (fun below above => model.superclass? below = some above) className ancestor :=
  descendsFrom_iff.trans climb_iff_transGen

/-- The descent of mapped entities is the transitive closure of the steps to the parent. -/
theorem Mapping.descendsFrom_iff_transGen {mapping : Mapping} {entity ancestor : String} :
    mapping.descendsFrom entity ancestor ↔ Relation.TransGen
      (fun below above => mapping.parent? below = some above) entity ancestor :=
  descendsFrom_iff.trans climb_iff_transGen

/-! ## Places in a hierarchy -/

namespace Source

/-- One step up in the hierarchy that the source describes: to the superclass, or to the parent. -/
def parent? : Source → String → Option String
  | .classes model => model.superclass?
  | .mapping document => document.parent?

/-- The one name is below the other: some steps lead up to it, one or more. -/
def Below (source : Source) : String → String → Prop :=
  Relation.TransGen fun below above => source.parent? below = some above

end Source

/-- A hierarchy has no circles if every step up lowers a rank. -/
theorem Source.not_below_self {source : Source} (rank : String → Nat)
    (falls : ∀ below above, source.parent? below = some above → rank above < rank below)
    (name : String) : ¬ source.Below name name := by
  have lower : ∀ top, source.Below name top → rank top < rank name := by
    intro top below
    induction below with
    | single step => exact falls _ _ step
    | tail _ step ih => exact Nat.lt_trans (falls _ _ step) ih
  intro circle
  exact Nat.lt_irrefl _ (lower name circle)

namespace Descriptor

variable {source : Source} {identifier : Identifier} {a b d : Descriptor}

/-- The place of an entity in the hierarchy of its source: that of its class, or its own name. -/
def place (d : Descriptor) : String := d.shape.className?.getD d.name

theorem place_of_class {className : String} (ofClass : d.shape.className? = some className) :
    d.place = className := by
  unfold place
  rw [ofClass]
  rfl

theorem place_of_mapping {mapping : Mapping} (shape : d.shape = .mapped mapping) :
    d.place = d.name := by
  unfold place
  rw [shape]
  rfl

/-- **Subclasses are what is below**, at another place. An entity that is known under two names has
one place, and so the names of the entities do not matter. -/
theorem isSubclass_iff_below
    (describedA : Schema.describe? ⟨[source], identifier⟩ a.name = some a)
    (describedB : Schema.describe? ⟨[source], identifier⟩ b.name = some b) :
    a.isSubclass b ↔ b.place ≠ a.place ∧ source.Below b.place a.place := by
  have named : b.name = a.name → b = a := by
    intro same
    rw [same, describedA] at describedB
    exact (Option.some.inj describedB).symm
  obtain ⟨shapeA, -⟩ := Schema.describe?_single describedA
  obtain ⟨shapeB, -⟩ := Schema.describe?_single describedB
  cases source with
  | classes model =>
    obtain ⟨classA, -, shapeA⟩ := Option.map_eq_some_iff.mp shapeA
    obtain ⟨classB, -, shapeB⟩ := Option.map_eq_some_iff.mp shapeB
    have placeA : a.place = classA := place_of_class (by rw [← shapeA]; rfl)
    have placeB : b.place = classB := place_of_class (by rw [← shapeB]; rfl)
    rw [isSubclass_of_classes shapeA.symm shapeB.symm, ClassModel.descendsFrom_iff_transGen,
      ← placeA, ← placeB]
    -- two places have two names
    refine ⟨And.right, fun ⟨apart, below⟩ => ⟨?_, apart, below⟩⟩
    intro same
    rw [named same] at apart
    exact apart rfl
  | mapping document =>
    obtain ⟨_, -, shapeA⟩ := Option.map_eq_some_iff.mp shapeA
    obtain ⟨_, -, shapeB⟩ := Option.map_eq_some_iff.mp shapeB
    rw [isSubclass_of_mappings shapeA.symm shapeB.symm, Mapping.descendsFrom_iff_transGen,
      place_of_mapping shapeA.symm, place_of_mapping shapeB.symm]
    rfl

end Descriptor

/-- **Subclasses are ordered.** A class descends exactly from those to which one superclass step or
more lead up, and a mapped entity from those to which one parent step or more lead up, also on
circles.

Take a session with one source whose hierarchy has no circles, in any state. Then a known entity is
a subclass of another exactly if its place is below that of the other. No entity is a subclass of
itself, no two are subclasses of each other, and subclasses of subclasses are subclasses. Two names
of one class are not subclasses of each other, and they have the same subclasses and are subclasses
of the same entities. -/
theorem Session.subclasses_ordered :
    (∀ (model : ClassModel) (className ancestor : String),
      model.descendsFrom className ancestor ↔ Relation.TransGen
        (fun below above => model.superclass? below = some above) className ancestor) ∧
    (∀ (mapping : Mapping) (entity ancestor : String),
      mapping.descendsFrom entity ancestor ↔ Relation.TransGen
        (fun below above => mapping.parent? below = some above) entity ancestor) ∧
    (∀ (source : Source) (settings : Settings) (dialect : Function.Dialect) (sink : Sink)
        (requests : List Request), (∀ name, ¬ source.Below name name) →
      let known := ((start [source] settings dialect sink).run requests).2.store.descriptors
      (∀ a ∈ known, ∀ b ∈ known, a.isSubclass b ↔ source.Below b.place a.place) ∧
      (∀ a ∈ known, ¬ a.isSubclass a) ∧
      (∀ a ∈ known, ∀ b ∈ known, a.isSubclass b → ¬ b.isSubclass a) ∧
      (∀ a ∈ known, ∀ b ∈ known, ∀ c ∈ known,
        a.isSubclass b → b.isSubclass c → a.isSubclass c) ∧
      (∀ a ∈ known, ∀ b ∈ known, ∀ className, a.shape.className? = some className →
        b.shape.className? = some className → ¬ a.isSubclass b ∧
          ∀ c ∈ known, (a.isSubclass c ↔ b.isSubclass c) ∧ (c.isSubclass a ↔ c.isSubclass b))) := by
  refine ⟨fun _ _ _ => ClassModel.descendsFrom_iff_transGen,
    fun _ _ _ => Mapping.descendsFrom_iff_transGen, ?_⟩
  intro source settings dialect sink requests acyclic known
  have faithful : ∀ d ∈ known, Schema.describe? ⟨[source], settings.identifier⟩ d.name = some d :=
    (run_valid (start_valid [source] settings dialect sink) requests).faithful
  -- without circles, what is below is at another place
  have below_iff : ∀ a ∈ known, ∀ b ∈ known, a.isSubclass b ↔ source.Below b.place a.place := by
    intro a here b there
    rw [Descriptor.isSubclass_iff_below (faithful a here) (faithful b there)]
    refine ⟨And.right, fun below => ⟨?_, below⟩⟩
    intro same
    rw [same] at below
    exact acyclic a.place below
  have irreflexive : ∀ a ∈ known, ∀ b ∈ known, b.place = a.place → ¬ a.isSubclass b := by
    intro a here b there same subclass
    have below := (below_iff a here b there).mp subclass
    rw [same] at below
    exact acyclic a.place below
  refine ⟨below_iff, fun a here => irreflexive a here a here rfl, ?_, ?_, ?_⟩
  · intro a here b there lower upper
    have circle := ((below_iff a here b there).mp lower).trans ((below_iff b there a here).mp upper)
    exact acyclic b.place circle
  · intro a here b there c beyond upper lower
    rw [below_iff a here b there] at upper
    rw [below_iff b there c beyond] at lower
    exact (below_iff a here c beyond).mpr (lower.trans upper)
  · intro a here b there className classA classB
    have same : b.place = a.place :=
      (Descriptor.place_of_class classB).trans (Descriptor.place_of_class classA).symm
    refine ⟨irreflexive a here b there same, ?_⟩
    intro c beyond
    rw [below_iff a here c beyond, below_iff b there c beyond, below_iff c beyond a here,
      below_iff c beyond b there, same]
    exact ⟨Iff.rfl, Iff.rfl⟩

/-- An entity that is on record under its name is known as the schema describes it. -/
theorem Store.Valid.mem_of_name {schema : Schema} {store : Store} {d : Descriptor}
    (valid : store.Valid schema) (listed : d.name ∈ store.descriptors.map (·.name))
    (described : schema.describe? d.name = some d) : d ∈ store.descriptors := by
  obtain ⟨e, here, same⟩ := List.mem_map.mp listed
  have faithful := valid.faithful e here
  rw [same, described] at faithful
  cases faithful
  exact here

/-- The company with directors, who are employees. -/
def ClassModel.board : ClassModel :=
  company.add (ClassFact.asEntity
    { name := "com.acme.Director", superclass := some "com.acme.Employee" })

/-- The steps up are from directors to employees and from employees to people. -/
theorem ClassModel.not_below_self_board (name : String) :
    ¬ (Source.classes .board).Below name name := by
  let rank (name : String) : Nat :=
    if name = "com.acme.Director" then 2 else if name = "com.acme.Employee" then 1 else 0
  refine Source.not_below_self rank ?_ name
  intro below above step
  have listed := ClassModel.board.mem_of_superclass? below (Option.isSome_of_eq_some step)
  have names : ClassModel.board.classes.entries.map (·.1) = ["com.acme.Address",
    "com.acme.Director", "com.acme.Employee", "com.acme.Order", "com.acme.OrderSummary",
    "com.acme.Person"] := by decide +kernel
  rw [names] at listed
  simp only [List.mem_cons, List.not_mem_nil, or_false] at listed
  rcases listed with rfl | rfl | rfl | rfl | rfl | rfl
  all_goals cases step
  all_goals decide

/-- Directors are employees, employees are people, and so directors are people, under both names
that people are known by. -/
theorem Session.directors_are_people :
    let source : Source := .classes .board
    let requests : List Request := [.entity "Person" .describe, .entity "com.acme.Person" .describe,
      .entity "Employee" .describe, .entity "Director" .describe]
    let known := ((start [source] {} .standard .collecting).run requests).2.store.descriptors
    let entity (name className : String) : Descriptor :=
      ⟨name, .introspected className .board, ⟨"id", .scalar .integer⟩⟩
    let person := entity "Person" "com.acme.Person"
    let human := entity "com.acme.Person" "com.acme.Person"
    let employee := entity "Employee" "com.acme.Employee"
    let director := entity "Director" "com.acme.Director"
    (∀ name, ¬ source.Below name name) ∧
      (person ∈ known ∧ human ∈ known ∧ employee ∈ known ∧ director ∈ known) ∧
      person.isSubclass employee ∧ employee.isSubclass director ∧ person.isSubclass director ∧
      ¬ director.isSubclass person ∧ ¬ person.isSubclass human ∧ human.isSubclass director := by
  intro source requests known entity person human employee director
  have valid := run_valid (start_valid [source] {} .standard .collecting) requests
  have names : known.map (·.name) = ["Person", "com.acme.Person", "Employee", "Director"] := by
    decide +kernel
  have listed : ∀ d : Descriptor, d.name ∈ ["Person", "com.acme.Person", "Employee", "Director"] →
      Schema.describe? ⟨[source], ⟨"id", .scalar .integer⟩⟩ d.name = some d → d ∈ known := by
    intro d here described
    rw [← names] at here
    exact valid.mem_of_name here described
  have first : person ∈ known := listed person (by decide) rfl
  have second : human ∈ known := listed human (by decide) rfl
  have third : employee ∈ known := listed employee (by decide) rfl
  have fourth : director ∈ known := listed director (by decide) rfl
  have upper : person.isSubclass employee := by decide +kernel
  have lower : employee.isSubclass director := by decide +kernel
  obtain ⟨-, -, asymmetric, transitive, named⟩ :=
    subclasses_ordered.2.2 source {} .standard .collecting
      requests ClassModel.not_below_self_board
  have across := transitive person first employee third director fourth upper lower
  obtain ⟨unrelated, alike⟩ := named person first human second "com.acme.Person" rfl rfl
  exact ⟨ClassModel.not_below_self_board, ⟨first, second, third, fourth⟩, upper, lower, across,
    asymmetric person first director fourth across, unrelated,
    (alike director fourth).1.mp across⟩

end EntityQuery
