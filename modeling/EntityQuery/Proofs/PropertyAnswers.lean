import EntityQuery.Proofs.Roles

/-!
# Answers about properties are kept

A known entity that has answered for a property path gives this answer for good: after any further
requests, and also when the session is closed and no subclass can be asked any more. What an entity
declares or inherits itself comes before everything else, at all times. And if there is no answer,
then asking has changed nothing, so that an answer may still turn up.

All of this is read off two facts about the store. It only grows, so that nobody forgets or changes
what they remember; and it is traced, so that nobody remembers anything but their own type where
they have one.
-/

namespace EntityQuery.Session

variable {s : Session} {d : Descriptor} {path : String} {type : QueryType}

/-- A known entity is read from the store, by an open session and by a closed one. -/
theorem entity_of_known (valid : s.store.Valid s.schema) (known : d ∈ s.store.descriptors) :
    (s.entity d.name).Reads s.store (.ok d) := by
  obtain ⟨k, found, rfl⟩ := valid.find?_descriptor_eq known
  by_cases isOpen : s.isOpen
  · rw [entity_of_open isOpen]
    exact (Schema.realize_reads found).adapt Refusal.schema
  · unfold Attempt.Reads
    rw [entity_of_closed isOpen]
    refine ⟨?_, rfl⟩
    show (s.store.find? k.descriptor.name).elim _ _ = _
    rw [found]
    rfl

/-- A session has a known entity answer for its property. -/
theorem step_known_propertyType (valid : s.store.Valid s.schema) (known : d ∈ s.store.descriptors)
    (path : String) :
    (s.step (.entity d.name (.propertyType path))).answer =
        .optionalType (d.propertyType path s.store).value ∧
      (s.step (.entity d.name (.propertyType path))).session =
        { s with store := (d.propertyType path s.store).store } := by
  obtain ⟨value, still⟩ := entity_of_known valid known
  obtain ⟨answer, session⟩ := s.look_reply (s.answerEntity d.name (.propertyType path))
  unfold answerEntity at answer session
  rw [(Attempt.run_bind_ok _ value).1, still, (Attempt.run_lift_bind _ _ _).1] at answer
  rw [(Attempt.run_bind_ok _ value).2, still, (Attempt.run_lift_bind _ _ _).2] at session
  exact ⟨answer, session⟩

/-- What an entity remembers is its answer, and giving it changes nothing. -/
theorem step_remembered_propertyType (valid : s.store.Valid s.schema)
    (known : d ∈ s.store.descriptors) (held : s.store.memo? d.name path = some type) :
    (s.step (.entity d.name (.propertyType path))).answer = .optionalType (some type) ∧
      (s.step (.entity d.name (.propertyType path))).session = s := by
  obtain ⟨answer, session⟩ := step_known_propertyType valid known path
  obtain ⟨value, still⟩ := Descriptor.propertyType_of_memo held
  rw [value] at answer
  rw [still] at session
  exact ⟨answer, session⟩

/-- **Answers about properties are kept, and own properties come first.** In every state of every
session, open or closed: nothing that an entity remembers is ever lost or changed, whatever is
requested. A known entity always answers for a path, with a type or with none. What it remembers is
its answer. If it answers with a type, it does so again after any further requests, and then
nothing changes. If it declares or inherits the path itself, the answer is the type that it has
there. And if there is no answer, then nothing has changed. -/
theorem property_answer_kept (sources : List Source) (settings : Settings)
    (dialect : Function.Dialect) (sink : Sink) (requests : List Request) :
    let s := ((start sources settings dialect sink).run requests).2
    (∀ name path type, s.store.memo? name path = some type → ∀ further : List Request,
      (s.run further).2.store.memo? name path = some type) ∧
    ∀ d ∈ s.store.descriptors, ∀ path : String,
      let ask : Request := .entity d.name (.propertyType path)
      (∃ type?, (s.step ask).answer = .optionalType type?) ∧
      (∀ type, s.store.memo? d.name path = some type →
        (s.step ask).answer = .optionalType (some type)) ∧
      (∀ type, (s.step ask).answer = .optionalType (some type) → ∀ further : List Request,
        let later := ((s.step ask).session.run further).2
        (later.step ask).answer = .optionalType (some type) ∧ (later.step ask).session = later) ∧
      (∀ type, d.declaredType? path = some type →
        (s.step ask).answer = .optionalType (some type)) ∧
      ((s.step ask).answer = .optionalType none → (s.step ask).session = s) := by
  intro s
  have sound : s.Sound := (start_sound sources settings dialect sink).run requests
  refine ⟨fun name path type held further => (run_grows sound.valid further).memo held, ?_⟩
  intro d known path ask
  obtain ⟨answer, session⟩ := step_known_propertyType sound.valid known path
  refine ⟨⟨_, answer⟩, ?_, ?_, ?_, ?_⟩
  · intro type held
    exact (step_remembered_propertyType sound.valid known held).1
  · intro type answered further later
    have value := Answer.optionalType.inj (answer.symm.trans answered)
    have next : (s.step ask).session.Sound := sound.run [ask]
    have stays := (run_grows sound.valid [ask]).mem known
    have held : (s.step ask).session.store.memo? d.name path = some type := by
      rw [session]
      exact Descriptor.propertyType_remembers known value
    -- the answer is in the store by now, and the store only grows
    have grown := run_grows next.valid further
    exact step_remembered_propertyType (next.run further).valid (grown.mem stays) (grown.memo held)
  · intro type declared
    have value := Descriptor.propertyType_of_declared sound.traced sound.valid known declared
    exact answer.trans (congrArg Answer.optionalType value)
  · intro missing
    have value := Answer.optionalType.inj (answer.symm.trans missing)
    rw [(Descriptor.propertyType_eq_none value).2.2] at session
    exact session

/-- People have no salary of their own. One that they got from the employees among them they keep,
also when the session is closed and no employee can be asked any more. -/
theorem salary_kept :
    let s := ((start [.classes .company] {} .standard .collecting).run
      [.entity "Person" .describe, .entity "com.acme.Employee" .describe,
        .entity "Employee" .describe]).2
    let person : Descriptor :=
      ⟨"Person", .introspected "com.acme.Person" .company, ⟨"id", .scalar .integer⟩⟩
    let ask : Request := .entity person.name (.propertyType "salary")
    let later := ((s.step ask).session.run [.close, .entity "Employee" (.propertyType "id")]).2
    person ∈ s.store.descriptors ∧ person.declaredType? "salary" = none ∧
      ((s.step .close).session.step ask).answer = .optionalType none ∧
      (s.step ask).answer = .optionalType (some (.scalar .bigDecimal)) ∧
      (later.step ask).answer = .optionalType (some (.scalar .bigDecimal)) ∧
      (later.step ask).session = later := by
  intro s person ask later
  have sound : s.Sound := (start_sound _ _ _ _).run _
  have known : person ∈ s.store.descriptors := List.mem_of_getElem? (i := 0) rfl
  have undeclared : person.declaredType? "salary" = none := by decide +kernel
  have asked : (person.propertyType "salary" s.store).value = some (.scalar .bigDecimal) := by
    decide +kernel
  have missed : (person.propertyType "salary" s.store.sever).value = none := by decide +kernel
  have answered : (s.step ask).answer = .optionalType (some (.scalar .bigDecimal)) :=
    (step_known_propertyType sound.valid known _).1.trans (congrArg _ asked)
  have closed : ((s.step .close).session.step ask).answer = .optionalType none :=
    (step_known_propertyType (sound.run [.close]).valid known _).1.trans (congrArg _ missed)
  have kept := ((property_answer_kept _ _ _ _ _).2 person known "salary").2.2.1 _ answered
    [.close, .entity "Employee" (.propertyType "id")]
  exact ⟨known, undeclared, closed, answered, kept⟩

end EntityQuery.Session
