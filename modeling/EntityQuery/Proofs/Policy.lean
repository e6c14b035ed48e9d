import EntityQuery.ClassModel.Example
import EntityQuery.Proofs.Sessions

/-!
# The policy for subclasses cannot be observed

A session that records subclass edges and one that looks for subclasses on demand give the same
answers to the same requests. The one is taken to the other by forgetting: `Session.unlinked` sets
the policy to `onDemand` and strips the store of its edges. Forgetting and then meeting a request
is the same as meeting the request and then forgetting (`Session.step_unlinked`), since no look-up
on a valid store depends on edges; and a fresh session without its edges is a fresh session on
demand.

The events of the two differ, as only one of them tells of edges.
-/

namespace EntityQuery.Session

variable {s : Session}

/-- **The session without its edges.** -/
def unlinked (s : Session) : Session :=
  { s with
    settings := { s.settings with subclasses := .onDemand }
    store := s.store.unlinked }

theorem isOpen_unlinked (s : Session) : s.unlinked.isOpen = s.isOpen := by
  show (s.store.linkage.unlinked != .severed) = (s.store.linkage != .severed)
  cases s.store.linkage <;> rfl

theorem answerEntity_unlinked (s : Session) (name : String) (question : EntityQuestion) :
    s.unlinked.answerEntity name question = s.answerEntity name question := by
  have entity : s.unlinked.entity = s.entity := by
    funext name
    unfold entity
    rw [isOpen_unlinked]
    rfl
  have isNew : (s.unlinked.store.find? name).isNone = (s.store.find? name).isNone := by
    show (s.store.unlinked.find? name).isNone = _
    rw [Store.find?_unlinked, Option.isNone_map]
  unfold answerEntity
  rw [entity, isNew]

theorem answer_unlinked (s : Session) (question : Question) :
    s.unlinked.answer question = s.answer question := by
  cases question <;> rfl

theorem useFunction_unlinked (s : Session) (name : String) :
    s.unlinked.useFunction name = ((s.useFunction name).1.unlinked, (s.useFunction name).2) := by
  have noticed : s.unlinked.notices.use s.unlinked.vocabulary name =
      s.notices.use s.vocabulary name := rfl
  have sink : s.unlinked.sink = s.sink := rfl
  unfold useFunction
  rw [noticed, sink]
  split
  · rfl
  · split <;> rfl

theorem look_unlinked {attempt : Attempt Refusal Answer}
    (made : attempt.run.MadeOf s.schema s.store) (valid : s.store.Valid s.schema) :
    (s.unlinked.look attempt).answer = (s.look attempt).answer ∧
      (s.unlinked.look attempt).session = (s.look attempt).session.unlinked := by
  obtain ⟨value, store⟩ := (orRefuse_madeOf made).ignoresEdges valid
  refine ⟨value, ?_⟩
  show { s.unlinked with store := (attempt.orRefuse s.store.unlinked).store } = _
  rw [store]
  rfl

theorem ask_unlinked (valid : s.store.Valid s.schema) (question : Question) :
    (s.unlinked.ask question).answer = (s.ask question).answer ∧
      (s.unlinked.ask question).session = (s.ask question).session.unlinked := by
  unfold ask
  rw [isOpen_unlinked]
  split
  · exact ⟨rfl, rfl⟩
  · cases usedFunction? question with
    | none =>
      dsimp only
      rw [answer_unlinked]
      exact look_unlinked (s.answer_madeOf question s.store) valid
    | some name =>
      dsimp only
      obtain ⟨schema, store⟩ := s.useFunction_store name
      rw [useFunction_unlinked, answer_unlinked]
      refine look_unlinked ((s.useFunction name).1.answer_madeOf question _) ?_
      rw [schema, store]
      exact valid

/-- **Forgetting edges commutes with meeting a request.** -/
theorem step_unlinked (valid : s.store.Valid s.schema) (request : Request) :
    (s.unlinked.step request).answer = (s.step request).answer ∧
      (s.unlinked.step request).session = (s.step request).session.unlinked := by
  cases request with
  | entity name question =>
    dsimp only [step]
    rw [answerEntity_unlinked]
    exact look_unlinked (s.answerEntity_madeOf name question valid) valid
  | ask question => exact ask_unlinked valid question
  | warnings => exact ⟨rfl, rfl⟩
  | takeWarnings => exact ⟨rfl, rfl⟩
  | close => exact ⟨rfl, rfl⟩

theorem run_unlinked (valid : s.store.Valid s.schema) (requests : List Request) :
    (s.unlinked.run requests).1 = (s.run requests).1 ∧
      (s.unlinked.run requests).2 = (s.run requests).2.unlinked := by
  induction requests generalizing s with
  | nil => exact ⟨rfl, rfl⟩
  | cons request requests ih =>
    obtain ⟨answer, session⟩ := step_unlinked valid request
    obtain ⟨answers, last⟩ := ih (next_valid valid request)
    rw [run_cons, run_cons, answer, session, answers, last]
    exact ⟨rfl, rfl⟩

/-- The known entities and what each of them remembers, without the recorded edges. -/
def remembered (s : Session) : List (Descriptor × List (String × QueryType)) :=
  s.store.known.map fun k => (k.descriptor, k.memo)

theorem remembered_unlinked (s : Session) : s.unlinked.remembered = s.remembered := by
  show (s.store.known.map (·.unlinked)).map _ = _
  rw [List.map_map]
  rfl

/-- **The policy for subclasses cannot be observed.** Whatever the sources and the requests, the
two policies lead to the same answers, and in the end to the same known entities with the same
remembered types and to the same roles. An open session that records edges has recorded, for each
entity, exactly the known subclasses of it, each once and in the order of creation. -/
theorem run_of_either_policy (sources : List Source) (settings : Settings)
    (dialect : Function.Dialect) (sink : Sink) (requests : List Request) :
    let onDemand :=
      (start sources { settings with subclasses := .onDemand } dialect sink).run requests
    let atCreation :=
      (start sources { settings with subclasses := .atCreation } dialect sink).run requests
    onDemand.1 = atCreation.1 ∧
    onDemand.2.remembered = atCreation.2.remembered ∧
    onDemand.2.store.roles = atCreation.2.store.roles ∧
    (atCreation.2.isOpen → ∀ k ∈ atCreation.2.store.known,
      k.recorded = atCreation.2.store.descriptors.filter k.descriptor.isSubclass ∧
      (k.recorded.map (·.name)).Nodup) := by
  intro onDemand atCreation
  have fresh := start_valid sources { settings with subclasses := .atCreation } dialect sink
  obtain ⟨answers, session⟩ := run_unlinked fresh requests
  refine ⟨answers, ?_, ?_, ?_⟩
  · rw [← remembered_unlinked atCreation.2, ← session]
    rfl
  · exact congrArg (·.store.roles) session
  · intro isOpen k known
    have valid := run_valid fresh requests
    have recorded := valid.linked (run_linkage fresh requests isOpen) k known
    refine ⟨recorded, ?_⟩
    rw [recorded]
    exact valid.distinct.sublist (List.filter_sublist.map _)

/-- Employees are recorded below people when they become known, and are recorded once. -/
theorem employees_recorded_once :
    let s := ((start [.classes .company] { subclasses := .atCreation } .standard .collecting).run
      [.entity "Person" .describe, .entity "Employee" .describe, .entity "Person" .describe]).2
    s.isOpen ∧ s.store.known.map (fun k => k.recorded.map (·.name)) = [["Employee"], []] ∧
      ∀ k ∈ s.store.known, k.recorded = s.store.descriptors.filter k.descriptor.isSubclass ∧
        (k.recorded.map (·.name)).Nodup := by
  refine ⟨by decide +kernel, by decide +kernel, ?_⟩
  exact (run_of_either_policy _ {} _ _ _).2.2.2 (by decide +kernel)

end EntityQuery.Session
