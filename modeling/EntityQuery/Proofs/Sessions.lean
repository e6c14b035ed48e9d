import EntityQuery.Proofs.Walks
import EntityQuery.Session.Step

/-!
# Steps and runs of a session

All that a session answers with is made of the parts that look-ups are made of, so a request takes
the store of a session along by moves; only closing does something else, and severs it
(`Session.step_store`). From this, what every move and severing keep holds after any run
(`Session.run_keeps`). Every store that a session ever has is valid, and it grows with every
request.
-/

namespace EntityQuery.Session

variable {s : Session} {store : Store} {d : Descriptor}

/-! ## Answers -/

theorem entity_of_open (isOpen : s.isOpen) (name : String) :
    s.entity name = (s.schema.realize name).orSchemaError := by
  unfold entity
  rw [if_pos isOpen]

/-- A closed session reads its entities from the store. -/
theorem entity_of_closed (closed : ¬ s.isOpen) (name : String) :
    (s.entity name).run = Lookup.read fun store =>
      (store.find? name).elim (.error .closed) (.ok ·.descriptor) := by
  unfold entity knownEntity?
  rw [if_neg closed]
  funext store
  rw [Attempt.run_read_bind]
  cases found : store.find? name with
  | none =>
    simp only [Lookup.read, found]
    rfl
  | some k =>
    simp only [Lookup.read, found]
    rfl

theorem entity_madeOf (s : Session) (name : String) (store : Store) :
    (s.entity name).run.MadeOf s.schema store := by
  by_cases isOpen : s.isOpen
  · rw [entity_of_open isOpen]
    exact .adapt _ (.realize name)
  · rw [entity_of_closed isOpen]
    refine .read _ ?_
    rw [Store.find?_unlinked]
    cases store.find? name <;> rfl

/-- Whether the session is open or closed, the entity it gives is a known one. -/
theorem entity_known {name : String} (value : ((s.entity name).run store).value = .ok d) :
    d ∈ ((s.entity name).run store).store.descriptors := by
  by_cases isOpen : s.isOpen
  · rw [entity_of_open isOpen] at value ⊢
    exact (Schema.realize_known (Attempt.ok_of_adapt value)).1
  · rw [entity_of_closed isOpen] at value ⊢
    simp only [Lookup.read] at value ⊢
    cases found : store.find? name with
    | none =>
      rw [found] at value
      cases value
    | some k =>
      rw [found] at value
      cases value
      exact (Store.descriptor_of_find? found).1

theorem viewOf_madeOf (schema : Schema) (d : Descriptor) (isNew : Bool) (store : Store) :
    (viewOf d isNew).MadeOf schema store := by
  refine .read _ ?_
  rw [Store.find?_unlinked]
  cases store.find? d.name <;> rfl

theorem subclassNames_madeOf {schema : Schema} (valid : store.Valid schema)
    (known : d ∈ store.descriptors) : (subclassNames d).MadeOf schema store := by
  refine .read _ ?_
  rw [valid.unlinked_subclasses known]

theorem refuseOperation_madeOf (schema : Schema) (operation : String) (store : Store) :
    (refuseOperation operation).run.MadeOf schema store :=
  .andThen (.lift (.emit _ rfl)) fun _ _ => .fail _

theorem answerEntity_madeOf (s : Session) (name : String) (question : EntityQuestion)
    (valid : store.Valid s.schema) : (s.answerEntity name question).run.MadeOf s.schema store := by
  refine .andThen (s.entity_madeOf name store) fun d found => ?_
  have known := entity_known found
  have valid' := (s.entity_madeOf name store).reaches.valid valid
  cases question with
  | describe => exact .lift (viewOf_madeOf _ d _ _)
  | propertyType path => exact .andThen (.lift (.propertyType known path)) fun _ _ => .ok _
  | requireType path =>
    exact .andThen (.adapt _ (d.requireType_madeOf known path)) fun _ _ => .ok _
  | subclasses => exact .andThen (.lift (subclassNames_madeOf valid' known)) fun _ _ => .ok _
  | isSubclass other => exact .andThen (s.entity_madeOf other _) fun _ _ => .ok _
  | profile => exact .ok _
  | runtime operation => exact refuseOperation_madeOf _ operation _

/-- The paths of a query are walked one after the other. -/
theorem resolveAll_madeOf (schema : Schema) (root : String) (offsets : String → Nat)
    (paths : List String) (store : Store) :
    (paths.mapM fun path => (liftM (Navigation.resolveText schema root path (offsets path)).run :
      Attempt Refusal _)).run.MadeOf schema store := by
  induction paths generalizing store with
  | nil => exact .ok _
  | cons path paths ih =>
    rw [List.mapM_cons]
    refine .andThen (.lift (Navigation.resolveText_madeOf schema root path _ store)) fun _ _ => ?_
    exact .andThen (ih _) fun _ _ => .ok _

theorem answer_madeOf (s : Session) (question : Question) (store : Store) :
    (s.answer question).run.MadeOf s.schema store := by
  cases question with
  | referencedType entity path =>
    exact .andThen (.adapt _ (s.schema.referencedType_madeOf entity path store)) fun _ _ => .ok _
  | identifierType entity => exact .andThen (.adapt _ (.realize entity)) fun _ _ => .ok _
  | identifierProperty entity => exact .andThen (.adapt _ (.realize entity)) fun _ _ => .ok _
  | role role => exact .andThen (.adapt _ (s.schema.describeRole_madeOf role store)) fun _ _ => .ok _
  | roleRuntime role operation =>
    refine .andThen (.adapt _ (s.schema.describeRole_madeOf role store)) fun _ _ => ?_
    exact refuseOperation_madeOf _ operation _
  | path root text offset =>
    exact .mapOk _ (.lift (Navigation.resolveText_madeOf s.schema root text offset store))
  | segments root rootSpan path =>
    exact .mapOk _ (.lift (Navigation.resolve_madeOf s.schema root rootSpan path store))
  | query text root paths => exact .mapOk _ (resolveAll_madeOf s.schema root _ paths store)
  | function name => exact .ok _
  | call name count span => exact .ok _
  | isWhitelisted name => exact .ok _
  | importedName name => exact .ok _
  | hasClass className => exact .ok _
  | hasField className field => exact .ok _
  | instantiate className arguments =>
    unfold answer
    dsimp only
    split
    · exact .ok _
    · exact .fail _
  | sessionProfile => exact .ok _
  | runtime operation => exact refuseOperation_madeOf _ operation _
  | share => exact .ok _

/-! ## Steps -/

theorem isOpen_iff : s.isOpen ↔ s.store.linkage ≠ .severed := by
  simp [isOpen]

/-- Taking note of a function name is of no concern to the store. -/
theorem useFunction_store (s : Session) (name : String) :
    (s.useFunction name).1.schema = s.schema ∧ (s.useFunction name).1.store = s.store := by
  unfold useFunction
  split
  · exact ⟨rfl, rfl⟩
  · split <;> exact ⟨rfl, rfl⟩

theorem orRefuse_madeOf {schema : Schema} {attempt : Attempt Refusal Answer}
    (made : attempt.run.MadeOf schema store) : attempt.orRefuse.MadeOf schema store := by
  refine .bind made ?_
  cases (attempt.run store).value with
  | ok answer => exact .pure _
  | error refusal => exact .pure _

theorem look_reaches {attempt : Attempt Refusal Answer}
    (made : attempt.run.MadeOf s.schema s.store) :
    s.schema.Reaches s.store (s.look attempt).session.store :=
  (orRefuse_madeOf made).reaches

theorem ask_reaches (s : Session) (question : Question) :
    s.schema.Reaches s.store (s.ask question).session.store := by
  unfold ask
  split
  · exact .refl _
  · split
    · exact look_reaches (s.answer_madeOf question s.store)
    · next name _ =>
      obtain ⟨schema, store⟩ := s.useFunction_store name
      have reaches := look_reaches ((s.useFunction name).1.answer_madeOf question _)
      rw [schema, store] at reaches
      exact reaches

theorem ask_isOpen (s : Session) (question : Question) :
    (s.ask question).session.isOpen = s.isOpen := by
  unfold isOpen
  rw [(s.ask_reaches question).linkage]

/-- **What a request does to the store**: it makes moves, or closes the session. -/
theorem step_store (valid : s.store.Valid s.schema) (request : Request) :
    s.schema.Reaches s.store (s.step request).session.store ∨
      (s.step request).session.store = s.store.sever := by
  cases request with
  | entity name question => exact .inl (look_reaches (s.answerEntity_madeOf name question valid))
  | ask question => exact .inl (s.ask_reaches question)
  | warnings => exact .inl (.refl _)
  | takeWarnings => exact .inl (.refl _)
  | close => exact .inr rfl

theorem step_schema (s : Session) (request : Request) :
    (s.step request).session.schema = s.schema := by
  cases request with
  | ask question =>
    show (s.ask question).session.schema = s.schema
    unfold ask
    split
    · rfl
    · split
      · rfl
      · exact (s.useFunction_store _).1
  | _ => rfl

theorem step_valid (valid : s.store.Valid s.schema) (request : Request) :
    (s.step request).session.store.Valid s.schema := by
  rcases step_store valid request with reaches | severed
  · exact reaches.valid valid
  · rw [severed]
    exact valid.sever

/-- The next session has a valid store, too. -/
theorem next_valid (valid : s.store.Valid s.schema) (request : Request) :
    (s.step request).session.store.Valid (s.step request).session.schema := by
  rw [s.step_schema request]
  exact step_valid valid request

/-! ## Runs -/

theorem run_cons (s : Session) (request : Request) (requests : List Request) :
    s.run (request :: requests) =
      ((s.step request).answer :: ((s.step request).session.run requests).1,
        ((s.step request).session.run requests).2) := rfl

/-- **What moves and closing keep, every run keeps.** -/
theorem run_keeps (holds : Store → Prop)
    (kept : ∀ {a b : Store}, a.Valid s.schema → s.schema.Move a b → holds a → holds b)
    (severed : ∀ {a : Store}, holds a → holds a.sever) (valid : s.store.Valid s.schema)
    (start : holds s.store) (requests : List Request) :
    (s.run requests).2.store.Valid s.schema ∧ holds (s.run requests).2.store := by
  induction requests generalizing s with
  | nil => exact ⟨valid, start⟩
  | cons request requests ih =>
    have schema := s.step_schema request
    have next : holds (s.step request).session.store := by
      rcases step_store valid request with reaches | closed
      · exact reaches.keeps_of_valid kept valid start
      · rw [closed]
        exact severed start
    rw [← schema]
    apply ih
    · rw [schema]
      exact kept
    · rw [schema]
      exact step_valid valid request
    · exact next

theorem run_schema (s : Session) (requests : List Request) :
    (s.run requests).2.schema = s.schema := by
  induction requests generalizing s with
  | nil => rfl
  | cons request requests ih => exact (ih _).trans (s.step_schema request)

theorem run_valid (valid : s.store.Valid s.schema) (requests : List Request) :
    (s.run requests).2.store.Valid s.schema :=
  (run_keeps (fun _ => True) (fun _ _ _ => trivial) (fun _ => trivial) valid trivial requests).1

/-- The store grows with every request. -/
theorem run_grows (valid : s.store.Valid s.schema) (requests : List Request) :
    s.store.Grows (s.run requests).2.store :=
  (run_keeps (s.store.Grows ·) (fun _ move grown => grown.trans move.grows)
    (fun grown => grown.trans (Store.grows_sever _)) valid (.refl _) requests).2

/-- A session that is open has found subclasses in the same way from the start. -/
theorem run_linkage (valid : s.store.Valid s.schema) (requests : List Request)
    (isOpen : (s.run requests).2.isOpen) :
    (s.run requests).2.store.linkage = s.store.linkage := by
  let holds (store : Store) : Prop :=
    store.linkage = s.store.linkage ∨ store.linkage = .severed
  have either : holds (s.run requests).2.store := by
    refine (run_keeps holds ?_ (fun _ => .inr rfl) valid (.inl rfl) requests).2
    intro a b _ move same
    unfold holds
    rw [move.linkage]
    exact same
  exact either.resolve_right (isOpen_iff.mp isOpen)

/-- A session starts with a valid store. -/
theorem start_valid (sources : List Source) (settings : Settings) (dialect : Function.Dialect)
    (sink : Sink) : (start sources settings dialect sink).store.Valid
      (start sources settings dialect sink).schema :=
  Store.valid_of_known_nil rfl

end EntityQuery.Session
