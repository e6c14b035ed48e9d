import EntityQuery.Proofs.Catalogue
import Mathlib.Data.List.Induction

/-!
# The class added last counts

Classes are added to a model one after the other. The model has two tables, and they are not kept by
the same rule. The facts about a class replace those that were there before under its name. An
entity is entered among the entity names twice, under its entity name and under its class name, but
a class that is no entity leaves these names alone, even if one of them is its own. So a class may
be added again without being an entity, an entity may get another name, and the name of an entity
may be the qualified name of another class.

Yet each look-up follows the last class that had a say in it (`get?_ofFacts`,
`entityClass?_ofFacts`), both by one lemma (`eq_last`): whatever a class that is added decides by
itself or leaves as it was, in the end the last class to decide it has decided it. Since whoever
enters an entity name enters a class as well, no entity name leads to a class that is missing
(`last_class_counts`).
-/

namespace EntityQuery

/-! ## The last of a list -/

namespace ClassFact

/-- **The fact is the last of its sort** in the list. -/
def Last (sort : ClassFact → Prop) (facts : List ClassFact) (fact : ClassFact) : Prop :=
  ∃ before after, facts = before ++ fact :: after ∧ sort fact ∧ ∀ later ∈ after, ¬ sort later

variable {sort : ClassFact → Prop} {facts : List ClassFact} {fact added : ClassFact}

theorem Last.mem (last : Last sort facts fact) : fact ∈ facts ∧ sort fact := by
  obtain ⟨before, after, rfl, sorted, -⟩ := last
  exact ⟨by simp, sorted⟩

theorem not_last_nil : ¬ Last sort [] fact := by
  rintro ⟨before, after, eq, -⟩
  simp at eq

/-- One more fact at the end is the last of its sort; of any other sort, the last one stays. -/
theorem last_concat : Last sort (facts ++ [added]) fact ↔
    (sort added ∧ fact = added) ∨ (¬ sort added ∧ Last sort facts fact) := by
  constructor
  · rintro ⟨before, after, whole, sorted, none⟩
    cases after using List.reverseRecOn with
    | nil =>
      obtain ⟨-, same⟩ := List.append_inj' whole rfl
      cases same
      exact .inl ⟨sorted, rfl⟩
    | append_singleton after final =>
      rw [← List.cons_append, ← List.append_assoc] at whole
      obtain ⟨front, same⟩ := List.append_inj' whole rfl
      cases same
      refine .inr ⟨none added (by simp), before, after, front, sorted, ?_⟩
      intro later here
      exact none later (List.mem_append_left _ here)
  · rintro (⟨sorted, rfl⟩ | ⟨other, before, after, rfl, sorted, none⟩)
    · exact ⟨facts, [], rfl, sorted, nofun⟩
    · refine ⟨before, after ++ [added], by simp, sorted, ?_⟩
      intro later here
      rcases List.mem_append.mp here with here | here
      · exact none later here
      · rw [List.mem_singleton.mp here]
        exact other

/-- The class is an entity and goes by the name, be it as its entity name or as its class name. -/
def EntityUnder (name : String) (fact : ClassFact) : Prop :=
  ∃ entityName, fact.entityName = some entityName ∧ (entityName = name ∨ fact.name = name)

end ClassFact

namespace ClassModel

variable {facts : List ClassFact}

theorem ofFacts_concat (facts : List ClassFact) (fact : ClassFact) :
    ofFacts (facts ++ [fact]) = (ofFacts facts).add fact := by
  unfold ofFacts
  rw [List.foldl_append]
  rfl

/-- **The last writer wins.** Let a look-up find nothing in the model without classes, and let each
class that is added decide by itself what is found, if it is of a certain sort, and otherwise leave
it as it was. Then what is found is what the last class of this sort decides. -/
theorem eq_last {α : Type} (look : ClassModel → Option α) (sort : ClassFact → Prop)
    (decides : ClassFact → α) (nothing : look empty = none)
    (decided : ∀ (model : ClassModel) (fact : ClassFact), sort fact →
      look (model.add fact) = some (decides fact))
    (left : ∀ (model : ClassModel) (fact : ClassFact), ¬ sort fact →
      look (model.add fact) = look model) (facts : List ClassFact) :
    (∀ a, look (ofFacts facts) = some a ↔
      ∃ fact, ClassFact.Last sort facts fact ∧ decides fact = a) ∧
    (look (ofFacts facts) = none ↔ ∀ fact ∈ facts, ¬ sort fact) := by
  induction facts using List.reverseRecOn with
  | nil =>
    show (∀ a, look empty = some a ↔ _) ∧ (look empty = none ↔ _)
    rw [nothing]
    refine ⟨?_, by simp⟩
    intro a
    exact ⟨nofun, fun ⟨fact, last, _⟩ => absurd last ClassFact.not_last_nil⟩
  | append_singleton facts added ih =>
    rw [ofFacts_concat]
    by_cases sorted : sort added
    · rw [decided _ _ sorted]
      simp [ClassFact.last_concat, sorted]
    · rw [left _ _ sorted]
      simp [ClassFact.last_concat, sorted, ih, or_imp, forall_and]

/-! ## The two tables -/

section Add

variable {model : ClassModel} {fact : ClassFact} {name : String}

theorem get?_add (named : fact.name = name) : (model.add fact).classes.get? name = some fact := by
  subst named
  exact (Table.get?_insert _ _ _ _).trans (if_pos rfl)

theorem get?_add_of_ne (other : fact.name ≠ name) :
    (model.add fact).classes.get? name = model.classes.get? name :=
  (Table.get?_insert _ _ _ _).trans (if_neg other.symm)

theorem entityClass?_add (under : fact.EntityUnder name) :
    (model.add fact).entityClass? name = some fact.name := by
  obtain ⟨entityName, given, goesBy⟩ := under
  show (registerEntity model.entityNames fact).get? name = _
  unfold registerEntity
  rw [given]
  dsimp only
  rw [Table.get?_insert, Table.get?_insert]
  rcases goesBy with rfl | rfl
  · rw [if_pos rfl, ite_self]
  · rw [if_pos rfl]

theorem entityClass?_add_of_not (other : ¬ fact.EntityUnder name) :
    (model.add fact).entityClass? name = model.entityClass? name := by
  show (registerEntity model.entityNames fact).get? name = model.entityNames.get? name
  unfold registerEntity
  cases given : fact.entityName with
  | none => rfl
  | some entityName =>
    have otherName : entityName ≠ name := fun same => other ⟨entityName, given, .inl same⟩
    have otherClass : fact.name ≠ name := fun same => other ⟨entityName, given, .inr same⟩
    dsimp only
    rw [Table.get?_insert, Table.get?_insert, if_neg otherClass.symm, if_neg otherName.symm]

end Add

/-- What a model has under the name of a class is the last fact about it. -/
theorem get?_ofFacts (facts : List ClassFact) (name : String) :
    (∀ fact, (ofFacts facts).classes.get? name = some fact ↔
      ClassFact.Last (·.name = name) facts fact) ∧
    ((ofFacts facts).classes.get? name = none ↔ ∀ fact ∈ facts, fact.name ≠ name) := by
  obtain ⟨found, missing⟩ := eq_last (·.classes.get? name) (·.name = name) id rfl
    (fun _ _ named => get?_add named) (fun _ _ other => get?_add_of_ne other) facts
  refine ⟨?_, missing⟩
  intro fact
  rw [found]
  simp

/-- An entity name leads to the last class that is an entity and goes by this name. -/
theorem entityClass?_ofFacts (facts : List ClassFact) (name : String) :
    (∀ className, (ofFacts facts).entityClass? name = some className ↔
      ∃ fact, ClassFact.Last (·.EntityUnder name) facts fact ∧ fact.name = className) ∧
    ((ofFacts facts).entityClass? name = none ↔ ∀ fact ∈ facts, ¬ fact.EntityUnder name) :=
  eq_last (·.entityClass? name) (·.EntityUnder name) (·.name) rfl
    (fun _ _ under => entityClass?_add under) (fun _ _ other => entityClass?_add_of_not other) facts

/-- Every fact that was added has left a class of its name. -/
theorem hasClass_of_mem {fact : ClassFact} (added : fact ∈ facts) :
    (ofFacts facts).hasClass fact.name := by
  unfold hasClass Table.contains
  rw [Option.isSome_iff_ne_none]
  intro missing
  exact (get?_ofFacts facts fact.name).2.mp missing fact added rfl

/-- **No entity name leads to a class that is missing.** -/
theorem hasClass_of_entityClass? {name className : String}
    (leads : (ofFacts facts).entityClass? name = some className) :
    (ofFacts facts).hasClass className := by
  obtain ⟨fact, last, rfl⟩ := ((entityClass?_ofFacts facts name).1 className).mp leads
  exact hasClass_of_mem last.mem.1

/-! ## What a model answers -/

/-- **The model answers from the fact**: all that it says about the class of this name is read off
the fact, or is that there is nothing if there is no fact. -/
structure AnswersFrom (model : ClassModel) (name : String) (fact? : Option ClassFact) : Prop where
  hasClass : model.hasClass name = fact?.isSome
  hasField : ∀ field, model.hasField name field = fact?.any (·.fields.contains field)
  fieldType : ∀ field, model.fieldType? name field = fact?.bind (·.fields.get? field)
  superclass : model.superclass? name = fact?.bind (·.superclass)
  hasConstructor : ∀ arguments,
    model.hasConstructor name arguments = fact?.any (·.accepts arguments)

theorem withheld_ofFacts (facts : List ClassFact) : (ofFacts facts).withheld = [] := by
  induction facts using List.reverseRecOn with
  | nil => rfl
  | append_singleton facts fact ih =>
    rw [ofFacts_concat]
    exact ih

/-- A model answers from what it has under the name. -/
theorem answersFrom_get? (facts : List ClassFact) (name : String) :
    (ofFacts facts).AnswersFrom name ((ofFacts facts).classes.get? name) where
  hasClass := rfl
  hasField _ := rfl
  fieldType _ := by
    unfold fieldType?
    rw [withheld_ofFacts]
    rfl
  superclass := rfl
  hasConstructor _ := rfl

end ClassModel

/-! ## Descriptors -/

/-- An introspected entity is one that its source leads to a class. -/
theorem Schema.entityClass?_of_describe? {schema : Schema} {name className : String}
    {model : ClassModel} {d : Descriptor} (described : schema.describe? name = some d)
    (shape : d.shape = .introspected className model) :
    .classes model ∈ schema.sources ∧ model.entityClass? name = some className := by
  obtain ⟨-, ⟨before, source, after, order, gives, -⟩, -⟩ := describe?_eq_some described
  have listed : source ∈ schema.sources := by simp [order]
  rw [shape] at gives
  cases source with
  | mapping document =>
    obtain ⟨_, _, other⟩ := Option.map_eq_some_iff.mp gives
    cases other
  | classes other =>
    obtain ⟨_, leads, same⟩ := Option.map_eq_some_iff.mp gives
    cases same
    exact ⟨listed, leads⟩

/-- **The class added last counts.** Let a model be made by adding classes, in any order and any of
them more than once. All that it says about the class of a name is read off the last fact of this
name; if there is none, the model has no such class and says nothing about it. An entity name leads
to the class that was added last among the entities that go by this name, be it as their entity name
or as their class name; if there is none, it leads nowhere. And where it leads to there is a class.
Hence, whatever is asked of a session with such models among its sources, each known entity that is
introspected has its class in the model. This is also so if some field types are withheld. -/
theorem last_class_counts :
    (∀ facts : List ClassFact,
      let model := ClassModel.ofFacts facts
      (∀ name fact, ClassFact.Last (·.name = name) facts fact →
        model.AnswersFrom name (some fact)) ∧
      (∀ name, (∀ fact ∈ facts, fact.name ≠ name) → model.AnswersFrom name none) ∧
      (∀ name className, model.entityClass? name = some className ↔
        ∃ fact, ClassFact.Last (·.EntityUnder name) facts fact ∧ fact.name = className) ∧
      (∀ name, model.entityClass? name = none ↔ ∀ fact ∈ facts, ¬ fact.EntityUnder name) ∧
      (∀ name className, model.entityClass? name = some className → model.hasClass className)) ∧
    (∀ (sources : List Source) (settings : Settings) (dialect : Function.Dialect) (sink : Sink)
        (requests : List Request),
      (∀ model, .classes model ∈ sources →
        ∃ facts withheld, model = { ClassModel.ofFacts facts with withheld }) →
      ∀ d ∈ ((Session.start sources settings dialect sink).run requests).2.store.descriptors,
        ∀ className model, d.shape = .introspected className model →
          .classes model ∈ sources ∧ model.entityClass? d.name = some className ∧
            model.hasClass className) := by
  refine ⟨?_, ?_⟩
  · intro facts model
    have answers := ClassModel.answersFrom_get? facts
    refine ⟨?_, ?_, fun name => (ClassModel.entityClass?_ofFacts facts name).1,
      fun name => (ClassModel.entityClass?_ofFacts facts name).2,
      fun _ _ => ClassModel.hasClass_of_entityClass?⟩
    · intro name fact last
      rw [← ((ClassModel.get?_ofFacts facts name).1 fact).mpr last]
      exact answers name
    · intro name none
      rw [← (ClassModel.get?_ofFacts facts name).2.mpr none]
      exact answers name
  · intro sources settings dialect sink requests made d known className model shape
    have valid := Session.run_valid (Session.start_valid sources settings dialect sink) requests
    obtain ⟨listed, leads⟩ :=
      Schema.entityClass?_of_describe? (valid.faithful d known) shape
    obtain ⟨facts, withheld, rfl⟩ := made model listed
    have backed : (ClassModel.ofFacts facts).hasClass className :=
      ClassModel.hasClass_of_entityClass? leads
    exact ⟨listed, leads, backed⟩

/-- A person is first added as an entity and then again as a plain class with other fields; then
another class takes the name of the entity as its qualified name. The person is still an entity by
the qualified name, with the fields added last, and the other class is what the entity name leads
to. -/
theorem person_added_twice :
    let first : ClassFact := {
      name := "acme.Person", entityName := some "Person"
      fields := .ofList [("born", .basic "int")] }
    let second : ClassFact := { name := "acme.Person", superclass := some "acme.Being" }
    let other : ClassFact := { name := "Person", entityName := some "Human" }
    let facts := [first, second, other]
    let model := { ClassModel.ofFacts facts with withheld := [("Person", "born")] }
    let s := ((Session.start [.classes model] {} .standard .collecting).run
      [.entity "acme.Person" .describe, .entity "Human" .describe, .entity "Person" .describe]).2
    ClassFact.Last (·.name = "acme.Person") facts second ∧
      (ClassModel.ofFacts facts).AnswersFrom "acme.Person" (some second) ∧
      (ClassModel.ofFacts facts).AnswersFrom "acme.Being" none ∧
      ClassFact.Last (·.EntityUnder "acme.Person") facts first ∧
      (ClassModel.ofFacts facts).entityClass? "acme.Person" = some "acme.Person" ∧
      ClassFact.Last (·.EntityUnder "Person") facts other ∧
      (ClassModel.ofFacts facts).entityClass? "Person" = some "Person" ∧
      (ClassModel.ofFacts facts).hasClass "Person" ∧
      s.store.descriptors.map (·.name) = ["acme.Person", "Human", "Person"] ∧
      ∀ d ∈ s.store.descriptors, ∀ className model', d.shape = .introspected className model' →
        .classes model' ∈ [Source.classes model] ∧ model'.entityClass? d.name = some className ∧
          model'.hasClass className := by
  intro first second other facts model s
  obtain ⟨models, sessions⟩ := last_class_counts
  obtain ⟨named, missing, entity, -, backed⟩ := models facts
  have last : ClassFact.Last (·.name = "acme.Person") facts second :=
    ⟨[first], [other], rfl, rfl, by simp [other]⟩
  have lastEntity : ClassFact.Last (·.EntityUnder "acme.Person") facts first := by
    refine ⟨[], [second, other], rfl, ⟨"Person", rfl, .inr rfl⟩, ?_⟩
    simp [ClassFact.EntityUnder, second, other]
  have lastOther : ClassFact.Last (·.EntityUnder "Person") facts other :=
    ⟨[first, second], [], rfl, ⟨"Human", rfl, .inr rfl⟩, nofun⟩
  have leads := (entity "Person" "Person").mpr ⟨other, lastOther, rfl⟩
  refine ⟨last, named _ _ last, missing "acme.Being" (by decide), lastEntity,
    (entity _ _).mpr ⟨first, lastEntity, rfl⟩, lastOther, leads, backed _ _ leads,
    by decide +kernel, ?_⟩
  refine sessions [.classes model] {} .standard .collecting _ ?_
  intro model' listed
  cases List.mem_singleton.mp listed
  exact ⟨facts, _, rfl⟩

end EntityQuery
