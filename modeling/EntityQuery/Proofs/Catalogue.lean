import EntityQuery.Proofs.Agreement

/-!
# What a session has on record

Entities become known in many ways. They are asked for by name, a search for a role tries several
owners, and a walk moves from one entity to the next; some of these requests fail in the end. All of
them make entities known by one look-up, and it is this look-up that keeps the records in order
(`Session.records_in_order`).

An entity is on record once, under its own name, with the shape that the first source to recognise
the name gives it. A role is on record once, under itself. New records are put at the end and none
is ever replaced, so that the order is that of creation. A name is looked up with success exactly if
some source recognises it; what is on record is given back, and a name that no source recognises
leaves no trace.
-/

namespace EntityQuery

/-! ## Sources -/

/-- **The first source to recognise the name** gives it this shape. -/
def Source.FirstShape (sources : List Source) (name : String) (shape : Shape) : Prop :=
  ∃ before source after, sources = before ++ source :: after ∧
    source.shape? name = some shape ∧ ∀ earlier ∈ before, earlier.shape? name = none

/-- Some source recognises the name. -/
def Source.Recognised (sources : List Source) (name : String) : Prop :=
  ∃ source ∈ sources, (source.shape? name).isSome

namespace Schema

variable {schema : Schema} {store : Store} {name : String} {d : Descriptor}

/-- A descriptor has the name that it is asked for, the shape from the first source to recognise it,
and the identifier that all entities have. -/
theorem describe?_eq_some (described : schema.describe? name = some d) :
    d.name = name ∧ Source.FirstShape schema.sources name d.shape ∧
      d.identifier = schema.identifier := by
  obtain ⟨shape, found, rfl⟩ := Option.map_eq_some_iff.mp described
  obtain ⟨before, source, after, order, gives, nothing⟩ := List.findSome?_eq_some_iff.mp found
  exact ⟨rfl, ⟨before, source, after, order, gives, nothing⟩, rfl⟩

theorem describe?_isSome_iff :
    (schema.describe? name).isSome ↔ Source.Recognised schema.sources name := by
  unfold describe? shape? Source.Recognised
  rw [Option.isSome_map, List.findSome?_isSome_iff]

/-- A name is realized exactly if some source recognises it. -/
theorem realize_isOk_iff (faithful : store.Faithful schema) (name : String) :
    (∃ d, ((schema.realize name).run store).value = .ok d) ↔
      Source.Recognised schema.sources name := by
  rw [← describe?_isSome_iff, realize_value faithful]
  cases schema.describe? name with
  | none => simp
  | some d => simp

end Schema

/-! ## Entries under their own names -/

/-- Where keys are apart, those in front of an entry are not its own. -/
theorem exists_split_of_nodup {α β : Type} {key : α → β} {entries : List α} {entry : α}
    (apart : (entries.map key).Nodup) (here : entry ∈ entries) :
    ∃ before after, entries = before ++ entry :: after ∧
      ∀ other ∈ before, key other ≠ key entry := by
  obtain ⟨before, after, rfl⟩ := List.append_of_mem here
  rw [List.map_append, List.nodup_append] at apart
  obtain ⟨-, -, apart⟩ := apart
  refine ⟨before, after, rfl, ?_⟩
  intro other early
  exact apart _ (List.mem_map_of_mem early) _ (List.mem_map_of_mem List.mem_cons_self)

/-- In a valid store every known entity is found under its own name. -/
theorem Store.Valid.find?_self {schema : Schema} {store : Store} {k : Known}
    (valid : store.Valid schema) (here : k ∈ store.known) : store.find? k.name = some k := by
  have apart := valid.distinct
  unfold Store.descriptors at apart
  rw [List.map_map] at apart
  obtain ⟨before, after, order, others⟩ := exists_split_of_nodup apart here
  unfold Store.find?
  rw [List.find?_eq_some_iff_append]
  refine ⟨by simp, before, after, order, ?_⟩
  intro other early
  have differ : other.name ≠ k.name := others other early
  simpa using differ

/-- Every role is on record once. -/
def Store.RolesApart (store : Store) : Prop := (store.roles.map (·.1)).Nodup

theorem Store.role?_eq_none {store : Store} {role : String} (missing : store.role? role = none) :
    role ∉ store.roles.map (·.1) := by
  intro listed
  obtain ⟨entry, here, rfl⟩ := List.mem_map.mp listed
  simpa using List.lookup_eq_none_iff.mp missing entry here

theorem Store.RolesApart.role?_self {store : Store} (apart : store.RolesApart)
    {entry : String × Collection.Role} (here : entry ∈ store.roles) :
    store.role? entry.1 = some entry.2 := by
  obtain ⟨before, after, order, differ⟩ := exists_split_of_nodup apart here
  unfold role?
  rw [List.lookup_eq_some_iff]
  refine ⟨before, after, order, ?_⟩
  intro other early
  simpa using (differ other early).symm

namespace Schema

variable {schema : Schema} {before after : Store}

/-- A role that is described is one that was not on record. -/
theorem Move.rolesApart (move : schema.Move before after) (apart : before.RolesApart) :
    after.RolesApart := by
  unfold Store.RolesApart at apart ⊢
  cases move with
  | create =>
    rw [Store.add_roles]
    exact apart
  | declare => exact apart
  | borrow => exact apart
  | @describe role description undescribed _ =>
    have listed : (before.addRole role description).roles.map (·.1) =
        before.roles.map (·.1) ++ [role] := by simp [Store.addRole]
    rw [listed]
    refine apart.append (List.nodup_singleton role) ?_
    intro other old new
    rw [List.mem_singleton.mp new] at old
    exact Store.role?_eq_none undescribed old

/-- What a role is decided to be bears the role. -/
theorem decideRole_role {role : String} {splits : List (String × String)} {r : Collection.Role}
    (decided : schema.decideRole role splits = .ok r) : r.role = role := by
  induction splits with
  | nil => cases decided
  | cons split others ih =>
    unfold decideRole at decided
    split at decided
    · next fact _ =>
      cases fact with
      | collection shape element key =>
        cases decided
        rfl
      | _ => cases decided
    · exact ih decided

end Schema

/-! ## Sessions -/

namespace Session

variable {s : Session}

theorem run_rolesApart (sources : List Source) (settings : Settings) (dialect : Function.Dialect)
    (sink : Sink) (requests : List Request) :
    ((start sources settings dialect sink).run requests).2.store.RolesApart :=
  (run_keeps Store.RolesApart (fun _ move apart => move.rolesApart apart) (fun apart => apart)
    (start_valid sources settings dialect sink) List.nodup_nil requests).2

/-- An open session describes an entity by realizing it. -/
theorem step_describe (isOpen : s.isOpen) (name : String) :
    let lookup := (s.schema.realize name).run s.store
    let reply := s.step (.entity name .describe)
    reply.session = { s with store := lookup.store } ∧
      (∀ d, lookup.value = .ok d → ∃ text, reply.answer =
        .descriptor ⟨d.name, d.shape, (s.store.find? name).isNone, text⟩) ∧
      (∀ e, lookup.value = .error e → reply.answer = .refused (.schema e)) := by
  intro lookup reply
  obtain ⟨answer, session⟩ := s.look_reply (s.answerEntity name .describe)
  have asked : s.answerEntity name .describe = (do
      let d ← (s.schema.realize name).orSchemaError
      viewOf d (s.store.find? name).isNone) := by
    unfold answerEntity
    rw [entity_of_open isOpen]
  have adapted : ((s.schema.realize name).orSchemaError.run s.store).value =
      lookup.value.mapError Refusal.schema := Attempt.adapt_value _ _ _
  cases value : lookup.value with
  | ok d =>
    rw [value] at adapted
    obtain ⟨shown, after⟩ := Attempt.run_bind_ok
      (fun d => (viewOf d (s.store.find? name).isNone : Attempt Refusal Answer)) adapted
    rw [← asked] at shown after
    rw [shown] at answer
    rw [after] at session
    refine ⟨session, ?_, nofun⟩
    rintro _ ⟨⟩
    exact ⟨_, answer⟩
  | error e =>
    rw [value] at adapted
    obtain ⟨failed, after⟩ := Attempt.run_bind_error
      (fun d => (viewOf d (s.store.find? name).isNone : Attempt Refusal Answer)) adapted
    rw [← asked] at failed after
    rw [failed] at answer
    rw [after] at session
    refine ⟨session, nofun, ?_⟩
    rintro _ ⟨⟩
    exact answer

/-- **The records are in order.** Take any sources and settings, and whatever has been requested.
The known entities have different names. Each of them is found under its own name, and has the shape
that the first source to recognise this name gives it and the identifier of the settings. Each role
is on record once and under itself. Whatever is requested next, be it met or refused, the known
entities and the roles on record stay as they are, and new ones come after them.

As long as the session is open, a name is looked up with success exactly if some source recognises
it, and the session shows the descriptor that is found. An entity that is known is what is found,
and then nothing changes; one that is not known is put at the end. If the look-up fails, then
because the entity is not mapped, and nothing changes. -/
theorem records_in_order (sources : List Source) (settings : Settings)
    (dialect : Function.Dialect) (sink : Sink) (requests : List Request) :
    let schema : Schema := ⟨sources, settings.identifier⟩
    let s := ((start sources settings dialect sink).run requests).2
    (s.store.known.map (·.name)).Nodup ∧
    (∀ k ∈ s.store.known, s.store.find? k.name = some k ∧
      Source.FirstShape sources k.name k.descriptor.shape ∧
      k.descriptor.identifier = settings.identifier) ∧
    (s.store.roles.map (·.1)).Nodup ∧
    (∀ entry ∈ s.store.roles, entry.2.role = entry.1 ∧ s.store.role? entry.1 = some entry.2) ∧
    (∀ request : Request,
      let next := (s.step request).session
      s.store.descriptors <+: next.store.descriptors ∧ s.store.roles <+: next.store.roles) ∧
    (s.isOpen → ∀ name : String,
      let lookup := (schema.realize name).run s.store
      let reply := s.step (.entity name .describe)
      ((∃ d, lookup.value = .ok d) ↔ Source.Recognised sources name) ∧
      (∀ d, lookup.value = .ok d → reply.session.store = lookup.store ∧ ∃ text,
        reply.answer = .descriptor ⟨name, d.shape, (s.store.find? name).isNone, text⟩) ∧
      (∀ k ∈ s.store.known, k.name = name →
        lookup.value = .ok k.descriptor ∧ reply.session = s) ∧
      (∀ d, lookup.value = .ok d → s.store.find? name = none →
        reply.session.store.descriptors = s.store.descriptors ++ [d]) ∧
      (∀ e, lookup.value = .error e →
        e = .unmappedEntity name ∧ reply.answer = .refused (.schema e) ∧ reply.session = s)) := by
  intro schema s
  have sound : s.Sound := (start_sound sources settings dialect sink).run requests
  have same : s.schema = schema := run_schema _ requests
  have valid := sound.valid
  have decided := sound.decided
  rw [same] at valid decided
  have apart : s.store.RolesApart := run_rolesApart sources settings dialect sink requests
  refine ⟨?_, ?_, apart, ?_, ?_, ?_⟩
  · have distinct := valid.distinct
    unfold Store.descriptors at distinct
    rw [List.map_map] at distinct
    exact distinct
  · intro k here
    have described := valid.faithful k.descriptor (List.mem_map_of_mem here)
    obtain ⟨-, first, identified⟩ := Schema.describe?_eq_some described
    exact ⟨valid.find?_self here, first, identified⟩
  · intro entry here
    have held := apart.role?_self here
    exact ⟨Schema.decideRole_role (decided _ _ held), held⟩
  · intro request next
    have grown : s.store.Grows next.store := run_grows sound.valid [request]
    exact ⟨grown.descriptors, grown.roles⟩
  · intro isOpen name lookup reply
    obtain ⟨session, shown, refused⟩ := step_describe isOpen name
    have stored : reply.session.store = ((s.schema.realize name).run s.store).store :=
      congrArg Session.store session
    have unchanged : ((s.schema.realize name).run s.store).store = s.store → reply.session = s := by
      intro still
      rw [still] at session
      exact session
    rw [same] at stored shown refused unchanged
    refine ⟨Schema.realize_isOk_iff valid.faithful name, ?_, ?_, ?_, ?_⟩
    · intro d value
      obtain ⟨text, answer⟩ := shown d value
      rw [(Schema.realize_known value).2] at answer
      exact ⟨stored, text, answer⟩
    · rintro k here rfl
      obtain ⟨value, still⟩ : (schema.realize k.name).Reads s.store (.ok k.descriptor) :=
        Schema.realize_reads (valid.find?_self here)
      exact ⟨value, unchanged still⟩
    · intro d value unknown
      rcases Schema.realize_eq_ok value with ⟨k, found, _⟩ | ⟨_, _, after⟩
      · rw [unknown] at found
        cases found
      · rw [stored, after, Store.add_descriptors]
    · intro e value
      exact ⟨Schema.realize_error value, refused e value,
        unchanged (Schema.realize_eq_error value).2.2⟩

/-- Orders are described by a class and by a mapping, and the class comes first. Three entities have
become known, by a question, a search for a role and a walk that failed. A name that is not mapped
is refused, and changes nothing. -/
theorem order_is_class :
    let sources : List Source := [.classes .company, .mapping trade]
    let s := ((start sources {} .standard .collecting).run
      [.entity "Export" .describe, .ask (.role "Person.orders"),
        .ask (.segments "Order" ⟨0, 1⟩ [⟨"place", ⟨2, 7⟩⟩])]).2
    let ghost := s.step (.entity "Ghost" .describe)
    s.isOpen ∧ s.store.known.map (·.name) = ["Export", "Person", "Order"] ∧
      (∃ k ∈ s.store.known, k.name = "Order" ∧
        Source.FirstShape sources "Order" k.descriptor.shape ∧
        k.descriptor.shape.className? = some "com.acme.Order" ∧
        (s.step (.entity "Order" .describe)).session = s) ∧
      ghost.answer = .refused (.schema (.unmappedEntity "Ghost")) ∧ ghost.session = s := by
  intro sources s ghost
  have isOpen : s.isOpen := by decide +kernel
  have names : s.store.known.map (·.name) = ["Export", "Person", "Order"] := by decide +kernel
  have classes : s.store.known.map (·.descriptor.shape.className?) =
      [none, some "com.acme.Person", some "com.acme.Order"] := by decide +kernel
  obtain ⟨-, known, -, -, -, lookups⟩ := records_in_order sources {} .standard .collecting
    [.entity "Export" .describe, .ask (.role "Person.orders"),
      .ask (.segments "Order" ⟨0, 1⟩ [⟨"place", ⟨2, 7⟩⟩])]
  have faithful : s.store.Faithful ⟨sources, ⟨"id", .scalar .integer⟩⟩ :=
    (run_valid (start_valid sources {} .standard .collecting) _).faithful
  have failed : ((Schema.realize ⟨sources, ⟨"id", .scalar .integer⟩⟩ "Ghost").run s.store).value =
      .error (.unmappedEntity "Ghost") := Schema.realize_value faithful "Ghost"
  obtain ⟨-, refused, still⟩ := (lookups isOpen "Ghost").2.2.2.2 _ failed
  have third : ∃ k, s.store.known[2]? = some k ∧ k.name = "Order" ∧
      k.descriptor.shape.className? = some "com.acme.Order" := by
    have name := congrArg (·[2]?) names
    have shape := congrArg (·[2]?) classes
    simp only [List.getElem?_map] at name shape
    obtain ⟨k, here, named⟩ := Option.map_eq_some_iff.mp name
    rw [here] at shape
    exact ⟨k, here, named, Option.some.inj shape⟩
  obtain ⟨k, here, named, shaped⟩ := third
  have here := List.mem_of_getElem? here
  have first := (known k here).2.1
  rw [named] at first
  have again := ((lookups isOpen "Order").2.2.1 k here named).2
  -- with the names in the way, the two sides would be compared by running the session
  unfold ghost s
  exact ⟨isOpen, names, ⟨k, here, named, first, shaped, again⟩, refused, still⟩

end Session

end EntityQuery
