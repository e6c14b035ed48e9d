import EntityQuery.Proofs.Permanence
import EntityQuery.Proofs.Provenance

/-!
# Which owner a role leads to

A role is read as an owner's name, a dot and a path, in as many ways as it has dots. Among the ways
in which the owner is an entity that declares the path, the one with the longest owner decides
(`Schema.Decides`); there is at most one, and a search that tries the owners from the longest down
comes to it. Nothing in this depends on a store, so a role is described in the same way at all
times (`Session.role_lookup_exact`), and what stores remember of roles is what the schema decides
on (`Store.Decided`).

What a search leaves behind depends on the store only in that entities which are known already are
not made known again (`Schema.newcomers`).
-/

namespace EntityQuery

/-! ## The ways to read a role -/

namespace Text

theorem mem_cuts {mark : Char} {cs left right : List Char} :
    (left, right) ∈ cuts mark cs ↔ left ++ mark :: right = cs := by
  refine ⟨cuts_sound, ?_⟩
  rintro rfl
  induction left with
  | nil => simp [cuts]
  | cons c left ih =>
    have later : (c :: left, right) ∈
        (cuts mark (left ++ mark :: right)).map fun cut => (c :: cut.1, cut.2) :=
      List.mem_map.mpr ⟨_, ih, rfl⟩
    rw [List.cons_append, cuts]
    split
    · exact List.mem_cons_of_mem _ later
    · exact later

theorem cuts_ordered (mark : Char) (cs : List Char) :
    (cuts mark cs).Pairwise fun a b => a.1.length < b.1.length := by
  induction cs with
  | nil => exact .nil
  | cons c cs ih =>
    have later : ((cuts mark cs).map fun cut => (c :: cut.1, cut.2)).Pairwise
        fun a b => a.1.length < b.1.length := by
      rw [List.pairwise_map]
      exact ih.imp fun lt => by simpa using lt
    rw [cuts]
    split
    · refine .cons ?_ later
      intro cut mem
      obtain ⟨_, _, rfl⟩ := List.mem_map.mp mem
      simp
    · exact later

/-- The ways to read a role are all the ways to write it as an owner, a dot and a path. -/
theorem mem_ownerPathSplits {role owner path : String} :
    (owner, path) ∈ ownerPathSplits role ↔ role = Descriptor.roleOf owner path := by
  have text : (Descriptor.roleOf owner path).toList = owner.toList ++ '.' :: path.toList := by
    simp [Descriptor.roleOf]
  rw [← String.toList_inj, text, eq_comm, ← mem_cuts]
  unfold ownerPathSplits
  simp only [List.mem_map, List.mem_reverse, Prod.mk.injEq]
  constructor
  · rintro ⟨⟨left, right⟩, mem, rfl, rfl⟩
    simpa using mem
  · intro mem
    exact ⟨_, mem, String.ofList_toList, String.ofList_toList⟩

/-- The longest owner comes first. -/
theorem ownerPathSplits_ordered (role : String) :
    (ownerPathSplits role).Pairwise fun a b => b.1.length < a.1.length := by
  unfold ownerPathSplits
  rw [List.pairwise_map, List.pairwise_reverse]
  exact (cuts_ordered '.' role.toList).imp fun lt => by simpa using lt

theorem ownerPathSplits_nodup (role : String) : ((ownerPathSplits role).map (·.1)).Nodup := by
  rw [List.Nodup, List.pairwise_map]
  refine (ownerPathSplits_ordered role).imp ?_
  intro a b lt same
  rw [same] at lt
  exact Nat.lt_irrefl _ lt

end Text

/-! ## The reading that decides -/

namespace Schema

variable {schema : Schema} {role owner path : String} {fact : MemberFact}

/-- The member that the schema has at a path of an entity. The identifier of an association is no
member. -/
def memberAt? (schema : Schema) (owner path : String) : Option MemberFact :=
  (schema.describe? owner).bind (·.declaredMember? path)

/-- No longer owner declares what is then left of the role. -/
def Foremost (schema : Schema) (role owner : String) : Prop :=
  ∀ other rest, role = Descriptor.roleOf other rest → owner.length < other.length →
    schema.memberAt? other rest = none

/-- **The reading decides the role**: the owner declares the path, and no longer owner declares
what is then left of the role. -/
structure Decides (schema : Schema) (role owner path : String) (fact : MemberFact) : Prop where
  reads : role = Descriptor.roleOf owner path
  declares : schema.memberAt? owner path = some fact
  foremost : schema.Foremost role owner

/-- The readings before one that is tried are those with longer owners. -/
theorem longer_of_before {before after : List (String × String)}
    (order : Text.ownerPathSplits role = before ++ (owner, path) :: after) {other rest : String} :
    (other, rest) ∈ before ↔
      role = Descriptor.roleOf other rest ∧ owner.length < other.length := by
  have ordered := Text.ownerPathSplits_ordered role
  rw [order, List.pairwise_append, List.pairwise_cons] at ordered
  obtain ⟨-, ⟨shorter, -⟩, longer⟩ := ordered
  rw [← Text.mem_ownerPathSplits, order]
  constructor
  · intro early
    exact ⟨List.mem_append_left _ early, longer _ early _ List.mem_cons_self⟩
  · rintro ⟨mem, lt⟩
    rcases List.mem_append.mp mem with early | here
    · exact early
    · rcases List.mem_cons.mp here with same | late
      · cases same
        exact absurd lt (Nat.lt_irrefl _)
      · exact absurd (Nat.lt_trans lt (shorter _ late)) (Nat.lt_irrefl _)

/-- The reading that decides is the first that leads to a member. -/
theorem decides_iff : schema.Decides role owner path fact ↔
    ∃ before after, Text.ownerPathSplits role = before ++ (owner, path) :: after ∧
      schema.memberAt? owner path = some fact ∧
      ∀ split ∈ before, schema.memberAt? split.1 split.2 = none := by
  constructor
  · intro decides
    obtain ⟨before, after, order⟩ :=
      List.append_of_mem (Text.mem_ownerPathSplits.mpr decides.reads)
    refine ⟨before, after, order, decides.declares, ?_⟩
    intro split early
    obtain ⟨reads, longer⟩ := (longer_of_before order).mp early
    exact decides.foremost _ _ reads longer
  · rintro ⟨before, after, order, declares, nothing⟩
    have listed : (owner, path) ∈ Text.ownerPathSplits role := by
      rw [order]
      exact List.mem_append_right _ List.mem_cons_self
    refine ⟨Text.mem_ownerPathSplits.mp listed, declares, ?_⟩
    intro other rest reads longer
    exact nothing (other, rest) ((longer_of_before order).mpr ⟨reads, longer⟩)

/-- A role is decided, or no reading of it leads to a member. -/
theorem decides_or_none (schema : Schema) (role : String) :
    (∃ owner path fact, schema.Decides role owner path fact) ∨
      ∀ owner path, role = Descriptor.roleOf owner path → schema.memberAt? owner path = none := by
  cases found : (Text.ownerPathSplits role).find? fun split =>
      (schema.memberAt? split.1 split.2).isSome with
  | some split =>
    obtain ⟨declares, before, after, order, nothing⟩ := List.find?_eq_some_iff_append.mp found
    obtain ⟨fact, declares⟩ := Option.isSome_iff_exists.mp declares
    refine .inl ⟨split.1, split.2, fact, decides_iff.mpr ⟨before, after, order, declares, ?_⟩⟩
    intro early mem
    simpa using nothing early mem
  | none =>
    refine .inr fun owner path reads => ?_
    simpa using List.find?_eq_none.mp found _ (Text.mem_ownerPathSplits.mpr reads)

/-- If a longer owner declares what is left of the role, then the reading that decides has a longer
owner. -/
theorem exists_longer_decides (later : ¬ schema.Foremost role owner) :
    ∃ other rest fact, schema.Decides role other rest fact ∧ owner.length < other.length := by
  simp only [Foremost, not_forall] at later
  obtain ⟨longer, left, reads, lt, declares⟩ := later
  obtain ⟨other, rest, fact, decides⟩ | nothing := schema.decides_or_none role
  · refine ⟨other, rest, fact, decides, ?_⟩
    by_contra short
    have further : other.length < longer.length := by omega
    exact declares (decides.foremost longer left reads further)
  · exact absurd (nothing longer left reads) declares

theorem decideRole_of_none {splits : List (String × String)} (role : String)
    (nothing : ∀ split ∈ splits, schema.memberAt? split.1 split.2 = none) :
    schema.decideRole role splits = .error (.unmappedCollection role) := by
  induction splits with
  | nil => rfl
  | cons split others ih =>
    have here : (schema.describe? split.1).bind (·.declaredMember? split.2) = none :=
      nothing split List.mem_cons_self
    rw [decideRole, here]
    exact ih fun other mem => nothing other (List.mem_cons_of_mem _ mem)

theorem decideRole_of_first {before after : List (String × String)} (role : String)
    (declares : schema.memberAt? owner path = some fact)
    (nothing : ∀ split ∈ before, schema.memberAt? split.1 split.2 = none) :
    schema.decideRole role (before ++ (owner, path) :: after) =
      Collection.Role.ofMember role owner fact := by
  induction before with
  | nil =>
    have here : (schema.describe? owner).bind (·.declaredMember? path) = some fact := declares
    rw [List.nil_append, decideRole, here]
  | cons split others ih =>
    have here : (schema.describe? split.1).bind (·.declaredMember? split.2) = none :=
      nothing split List.mem_cons_self
    rw [List.cons_append, decideRole, here]
    exact ih fun other mem => nothing other (List.mem_cons_of_mem _ mem)

/-- **The search is decided by the reading that decides.** -/
theorem Decides.decideRole_eq (decides : schema.Decides role owner path fact) :
    schema.decideRole role (Text.ownerPathSplits role) =
      Collection.Role.ofMember role owner fact := by
  obtain ⟨before, after, order, declares, nothing⟩ := decides_iff.mp decides
  rw [order]
  exact decideRole_of_first role declares nothing

/-! ## What a search leaves behind -/

/-- The owners that a search comes to: it stops at the first that declares the rest. -/
def asked (schema : Schema) : List (String × String) → List String
  | [] => []
  | (owner, path) :: others =>
    match schema.memberAt? owner path with
    | some _ => [owner]
    | none => owner :: schema.asked others

/-- The entities of some names that a store does not know yet. -/
def newcomers (schema : Schema) (store : Store) (names : List String) : List Descriptor :=
  names.filterMap fun name => if (store.find? name).isSome then none else schema.describe? name

end Schema

namespace Store

variable {schema : Schema} {store : Store} {d : Descriptor} {names : List String}

/-- The known descriptors in the order of creation, each with all that it remembers. -/
def ledger (store : Store) : List (Descriptor × List (String × QueryType)) :=
  store.known.map fun k => (k.descriptor, k.memo)

/-- A new descriptor is put at the end of the ledger and remembers nothing. -/
theorem ledger_add (store : Store) (d : Descriptor) :
    (store.add d).ledger = store.ledger ++ [(d, [])] := by
  obtain ⟨mark, new, eq, marked, rfl, blank⟩ := add_known store d
  have kept : ∀ k, ((mark k).descriptor, (mark k).memo) = (k.descriptor, k.memo) :=
    fun k => by rw [(marked k).1, (marked k).2]
  unfold ledger
  simp only [eq, List.map_append, List.map_map, Function.comp_def, kept, List.map_singleton, blank]

theorem find?_add_of_ne {name : String} (ne : d.name ≠ name) :
    ((store.add d).find? name).isSome = (store.find? name).isSome := by
  rw [← Option.isSome_map (f := (·.descriptor)), find?_descriptor, add_descriptors,
    List.find?_append, ← find?_descriptor]
  simp [ne]

/-- A new descriptor is of no concern to those of other names. -/
theorem newcomers_add (other : d.name ∉ names) :
    schema.newcomers (store.add d) names = schema.newcomers store names := by
  unfold Schema.newcomers
  refine List.filterMap_congr fun name mem => ?_
  have ne : d.name ≠ name := by
    rintro rfl
    exact other mem
  rw [find?_add_of_ne ne]

end Store

namespace Schema

variable {schema : Schema} {store : Store}

/-- Realizing an entity enters it in the ledger if it is new. -/
theorem realize_ledger (schema : Schema) (name : String) (store : Store) :
    ((schema.realize name).run store).store.ledger =
      store.ledger ++ (schema.newcomers store [name]).map (·, []) := by
  rcases schema.realize_cases name store with
    ⟨k, found, _, after⟩ | ⟨d, unknown, described, _, after⟩ | ⟨unknown, undescribed, _, after⟩
  · simp [after, newcomers, found]
  · simp [after, newcomers, unknown, described, Store.ledger_add]
  · simp [after, newcomers, unknown, undescribed]

/-- To those of other names it is of no concern whether an entity has been realized. -/
theorem newcomers_realize {name : String} {names : List String} (other : name ∉ names) :
    schema.newcomers ((schema.realize name).run store).store names =
      schema.newcomers store names := by
  rcases schema.realize_cases name store with
    ⟨_, _, _, after⟩ | ⟨d, _, described, _, after⟩ | ⟨_, _, _, after⟩
  · rw [after]
  · rw [after]
    exact Store.newcomers_add (by rwa [name_of_describe? described])
  · rw [after]

theorem asked_subset (schema : Schema) (splits : List (String × String)) :
    schema.asked splits ⊆ splits.map (·.1) := by
  induction splits with
  | nil => exact List.Subset.refl _
  | cons split others ih =>
    rw [asked, List.map_cons]
    split
    · exact List.cons_subset_cons _ (List.nil_subset _)
    · exact List.cons_subset_cons _ ih

/-- **A search makes known the owners that it comes to, and changes nothing else**: those that are
entities and were not known, in the order in which they are tried. -/
theorem searchRole_ledger (role : String) {splits : List (String × String)}
    (distinct : (splits.map (·.1)).Nodup) (faithful : store.Faithful schema) :
    (schema.searchRole role splits store).store.ledger =
      store.ledger ++ (schema.newcomers store (schema.asked splits)).map (·, []) := by
  induction splits generalizing store with
  | nil => simp [searchRole, asked, newcomers]
  | cons split others ih =>
    obtain ⟨owner, path⟩ := split
    obtain ⟨fresh, distinct⟩ := List.nodup_cons.mp distinct
    have goesOn : ∀ rest ⊆ others.map (·.1),
        schema.newcomers store (owner :: rest) = schema.newcomers store [owner] ++
          schema.newcomers ((schema.realize owner).run store).store rest := by
      intro rest among
      rw [newcomers_realize fun mem => fresh (among mem), ← List.singleton_append]
      exact List.filterMap_append
    have searched := ih distinct ((schema.realize_reaches owner store).faithful faithful)
    rw [realize_ledger, List.append_assoc, ← List.map_append,
      ← goesOn _ (schema.asked_subset others)] at searched
    unfold searchRole asked memberAt?
    rw [Lookup.bind_store, realize_value faithful owner]
    -- the search goes on unless the owner is an entity that declares the rest
    cases schema.describe? owner with
    | none => exact searched
    | some d =>
      simp only [Option.elim_some, Option.bind_some]
      cases d.declaredMember? path with
      | none => exact searched
      | some fact => exact schema.realize_ledger owner store

end Schema

/-! ## What stores remember of roles -/

/-- The roles that a store has described are described as the schema decides. -/
def Store.Decided (schema : Schema) (store : Store) : Prop :=
  ∀ (role : String) (r : Collection.Role), store.role? role = some r →
    schema.decideRole role (Text.ownerPathSplits role) = .ok r

namespace Schema

variable {schema : Schema} {store before after : Store}

theorem Move.decided (move : schema.Move before after) (valid : before.Valid schema)
    (decided : before.Decided schema) : after.Decided schema := by
  cases move with
  | create =>
    intro role r described
    unfold Store.role? at described
    rw [Store.add_roles] at described
    exact decided role r described
  | declare => exact decided
  | borrow => exact decided
  | @describe role₀ r₀ _ agreed =>
    intro role r described
    unfold Store.role? Store.addRole at described
    rw [List.lookup_append] at described
    cases old : before.roles.lookup role with
    | some kept =>
      rw [old] at described
      cases described
      exact decided role _ old
    | none =>
      rw [old, Option.none_or, Table.lookup_cons_eq] at described
      split at described
      · next same =>
        cases described
        rw [same]
        exact agreed valid.faithful
      · cases described

/-- **A role is described in the same way at all times.** -/
theorem describeRole_value (faithful : store.Faithful schema) (decided : store.Decided schema)
    (role : String) :
    ((schema.describeRole role).run store).value =
      schema.decideRole role (Text.ownerPathSplits role) := by
  rcases schema.describeRole_cases role store with
    ⟨r, described, value, _⟩ | ⟨r, _, found, value, _⟩ | ⟨e, _, found, value, _⟩
  · rw [value, decided role r described]
  · rw [value, ← searchRole_value faithful, found]
  · rw [value, ← searchRole_value faithful, found]

/-- Asking for a role that is not described makes known the owners that the search comes to. -/
theorem describeRole_ledger {role : String} (faithful : store.Faithful schema)
    (undescribed : store.role? role = none) :
    ((schema.describeRole role).run store).store.ledger = store.ledger ++
      (schema.newcomers store (schema.asked (Text.ownerPathSplits role))).map (·, []) := by
  rw [← searchRole_ledger role (Text.ownerPathSplits_nodup role) faithful]
  rcases schema.describeRole_cases role store with
    ⟨_, described, _⟩ | ⟨_, _, _, _, after⟩ | ⟨_, _, _, _, after⟩
  · rw [undescribed] at described
    cases described
  · rw [after]
    rfl
  · rw [after]

/-- A role is entered among those described if there is a description. -/
theorem describeRole_roles {role : String} (undescribed : store.role? role = none) :
    ((schema.describeRole role).run store).store.roles = store.roles ++
      (((schema.describeRole role).run store).value.toOption.map (role, ·)).toList := by
  rcases schema.describeRole_cases role store with
    ⟨_, described, _⟩ | ⟨r, _, _, value, after⟩ | ⟨e, _, _, value, after⟩
  · rw [undescribed] at described
    cases described
  · rw [after, value, Store.addRole, schema.searchRole_roles]
    rfl
  · rw [after, value, schema.searchRole_roles]
    exact (List.append_nil _).symm

end Schema

/-! ## Sessions -/

namespace Session

variable {s : Session}

/-- **What holds of a session at all times**: its store is valid, all that the store remembers is
provided for, and all roles are described as the schema decides. -/
structure Sound (s : Session) : Prop where
  valid : s.store.Valid s.schema
  traced : s.store.Traced
  decided : s.store.Decided s.schema

theorem start_sound (sources : List Source) (settings : Settings) (dialect : Function.Dialect)
    (sink : Sink) : (start sources settings dialect sink).Sound where
  valid := start_valid sources settings dialect sink
  traced := start_traced sources settings dialect sink
  decided _ _ described := nomatch described

theorem Sound.run (sound : s.Sound) (requests : List Request) : (s.run requests).2.Sound := by
  refine ⟨?_, run_traced sound.valid sound.traced requests, ?_⟩
  · rw [run_schema]
    exact run_valid sound.valid requests
  · rw [run_schema]
    exact (run_keeps (Store.Decided s.schema) (fun valid move decided => move.decided valid decided)
      (fun decided => decided) sound.valid sound.decided requests).2

/-- What comes of an attempt that a session makes: its answer, or the reason to refuse. -/
theorem look_reply (s : Session) (attempt : Attempt Refusal Answer) :
    (s.look attempt).answer =
        (match (attempt.run s.store).value with
          | .ok answer => answer
          | .error refusal => .refused refusal) ∧
      (s.look attempt).session = { s with store := (attempt.run s.store).store } := by
  unfold look Attempt.orRefuse
  dsimp only
  rw [Lookup.bind_value, Lookup.bind_store]
  cases (attempt.run s.store).value with
  | ok answer => exact ⟨rfl, rfl⟩
  | error refusal => exact ⟨rfl, rfl⟩

/-- The answer to a result that is a schema error or gives rise to an answer. -/
def report {α : Type} (f : α → Answer) : Except SchemaError α → Answer
  | .ok a => f a
  | .error e => .refused (.schema e)

/-- An answer that is no refusal reports a success. -/
theorem ok_of_report {α : Type} {f : α → Answer} {result : Except SchemaError α} {a : α}
    (apart : ∀ b, f b = f a → b = a) (answers : ∀ refusal, f a ≠ .refused refusal)
    (reported : report f result = f a) : result = .ok a := by
  cases result with
  | ok b => rw [apart b reported]
  | error e => exact absurd reported.symm (answers (.schema e))

/-- What comes of an attempt whose failure is a schema error. -/
theorem look_schema {α : Type} (s : Session) (attempt : Attempt SchemaError α) (f : α → Answer) :
    (s.look (do return f (← attempt.orSchemaError))).answer =
        report f (attempt.run s.store).value ∧
      (s.look (do return f (← attempt.orSchemaError))).session =
        { s with store := (attempt.run s.store).store } := by
  obtain ⟨answer, session⟩ := s.look_reply (do return f (← attempt.orSchemaError))
  have adapted := Attempt.adapt_value Refusal.schema attempt s.store
  cases value : (attempt.run s.store).value with
  | ok a =>
    rw [value] at adapted
    obtain ⟨same, after⟩ := Attempt.run_bind_ok (fun a => pure (f a)) adapted
    unfold Attempt.orSchemaError at answer session ⊢
    rw [same] at answer
    rw [after] at session
    exact ⟨answer, session⟩
  | error e =>
    rw [value] at adapted
    obtain ⟨same, after⟩ := Attempt.run_bind_error (fun a => pure (f a)) adapted
    unfold Attempt.orSchemaError at answer session ⊢
    rw [same] at answer
    rw [after] at session
    exact ⟨answer, session⟩

/-- An open session looks up what it is asked, unless a function name is used. -/
theorem step_ask (isOpen : s.isOpen) {question : Question} (plain : usedFunction? question = none) :
    s.step (.ask question) = s.look (s.answer question) := by
  show s.ask question = _
  unfold ask
  rw [isOpen, plain]
  rfl

/-- An open session answers for a role by describing it. -/
theorem step_role (isOpen : s.isOpen) (role : String) :
    (s.step (.ask (.role role))).answer =
        report .role ((s.schema.describeRole role).run s.store).value ∧
      (s.step (.ask (.role role))).session =
        { s with store := ((s.schema.describeRole role).run s.store).store } := by
  rw [step_ask isOpen rfl]
  exact s.look_schema (s.schema.describeRole role) .role

/-- The answer for a role is that of the schema. -/
theorem Sound.answer_role (sound : s.Sound) (isOpen : s.isOpen) (role : String) :
    (s.step (.ask (.role role))).answer =
      report .role (s.schema.decideRole role (Text.ownerPathSplits role)) := by
  rw [(step_role isOpen role).1, Schema.describeRole_value sound.valid.faithful sound.decided]

/-- **Role look-up is exact.** For every role, in every open session: the reading that decides gives
the answer, which is the collection that its owner declares, or that what it declares is none; and
if no reading leads to a member, the role is not mapped. The answer is the same in all states of
the session. A role that has been described before is answered without any change. Otherwise the
owners that the search comes to are made known, those that are entities and were not known yet, in
the order in which they are tried; nobody remembers anything more or less; and the role is entered
among those described if there is an answer. -/
theorem role_lookup_exact (sources : List Source) (settings : Settings)
    (dialect : Function.Dialect) (sink : Sink) (requests : List Request) (role : String)
    (isOpen : ((start sources settings dialect sink).run requests).2.isOpen) :
    let schema : Schema := ⟨sources, settings.identifier⟩
    let s := ((start sources settings dialect sink).run requests).2
    let reply := s.step (.ask (.role role))
    (∀ owner path shape element key,
      schema.Decides role owner path (.collection shape element key) →
        reply.answer = .role ⟨role, owner, .ofShape shape, element, key⟩) ∧
    (∀ owner path fact, schema.Decides role owner path fact →
      (∀ shape element key, fact ≠ .collection shape element key) →
        reply.answer = .refused (.schema (.notACollection role))) ∧
    ((∀ owner path, role = Descriptor.roleOf owner path → schema.memberAt? owner path = none) →
      reply.answer = .refused (.schema (.unmappedCollection role))) ∧
    (∀ others : List Request,
      let other := ((start sources settings dialect sink).run others).2
      other.isOpen → (other.step (.ask (.role role))).answer = reply.answer) ∧
    ((s.store.role? role).isSome → reply.session = s) ∧
    (s.store.role? role = none →
      reply.session.store.ledger = s.store.ledger ++
        (schema.newcomers s.store (schema.asked (Text.ownerPathSplits role))).map (·, []) ∧
      (∀ r, reply.answer = .role r → reply.session.store.roles = s.store.roles ++ [(role, r)]) ∧
      (∀ refusal, reply.answer = .refused refusal →
        reply.session.store.roles = s.store.roles)) := by
  intro schema s reply
  have fresh := start_sound sources settings dialect sink
  have answered : ∀ others : List Request,
      let other := ((start sources settings dialect sink).run others).2
      other.isOpen → (other.step (.ask (.role role))).answer =
        report .role (schema.decideRole role (Text.ownerPathSplits role)) := by
    intro others other alive
    have same : other.schema = schema := run_schema _ others
    rw [(fresh.run others).answer_role alive role, same]
  have answer := answered requests isOpen
  refine ⟨?_, ?_, ?_, ?_, ?_, ?_⟩
  · intro owner path shape element key decides
    rw [answer, decides.decideRole_eq]
    rfl
  · intro owner path fact decides other
    rw [answer, decides.decideRole_eq]
    cases fact with
    | collection shape element key => exact absurd rfl (other shape element key)
    | _ => rfl
  · intro nothing
    have undecided : schema.decideRole role (Text.ownerPathSplits role) =
        .error (.unmappedCollection role) :=
      Schema.decideRole_of_none role fun split mem =>
        nothing split.1 split.2 (Text.mem_ownerPathSplits.mp mem)
    rw [answer, undecided]
    rfl
  · intro others other alive
    exact (answered others alive).trans answer.symm
  · intro described
    obtain ⟨r, described⟩ := Option.isSome_iff_exists.mp described
    have reads : (s.schema.describeRole role).Reads s.store (.ok r) :=
      Schema.describeRole_reads described
    rw [(step_role isOpen role).2, reads.2]
  · intro undescribed
    have same : s.schema = schema := run_schema _ requests
    have faithful := (fresh.run requests).valid.faithful
    rw [same] at faithful
    obtain ⟨reported, session⟩ := step_role isOpen role
    rw [same] at reported session
    refine ⟨?_, ?_, ?_⟩
    · rw [session]
      exact Schema.describeRole_ledger faithful undescribed
    · intro r described
      rw [session, Schema.describeRole_roles undescribed]
      rw [described] at reported
      cases value : ((schema.describeRole role).run s.store).value with
      | ok r' =>
        rw [value] at reported
        cases reported
        rfl
      | error e =>
        rw [value] at reported
        cases reported
    · intro refusal refused
      rw [session, Schema.describeRole_roles undescribed]
      rw [refused] at reported
      cases value : ((schema.describeRole role).run s.store).value with
      | ok r =>
        rw [value] at reported
        cases reported
      | error e => exact List.append_nil _

/-- A shop has a till, which is a component and holds coins and notes, and racks, which are
components too and hold items. There is also an entity that bears the name of the till and has
notes of its own. -/
def shop : Mapping where
  entities := .ofList [
    ("Shop", { name := "Shop", properties := .ofList [
      ("till", .embedded "Till"),
      ("racks", .collection "List" (.embedded "Rack") none)] }),
    ("Shop.till", { name := "Shop.till", properties := .ofList [("notes", .basic "int")] }),
    ("Money", { name := "Money", properties := .ofList [("value", .basic "int")] }),
    ("Item", { name := "Item", properties := .ofList [("price", .basic "int")] })]
  components := .ofList [
    ("Till", .ofList [
      ("coins", .collection "Map" (.association "Money") (some (.basic "String"))),
      ("notes", .collection "List" (.association "Money") none)]),
    ("Rack", .ofList [("items", .collection "List" (.association "Item") none)])]

/-- The role of the coins is decided by the shop, since the entity that bears the name of the till
has no coins. -/
theorem shop_decides_coins :
    Schema.Decides ⟨[.mapping shop], ⟨"id", .scalar .integer⟩⟩ "Shop.till.coins" "Shop" "till.coins"
      (.collection "Map" (.association "Money") (some (.basic "String"))) := by
  refine Schema.decides_iff.mpr ⟨[("Shop.till", "coins")], [], by decide +kernel, rfl, ?_⟩
  intro split mem
  cases List.mem_singleton.mp mem
  rfl

/-- The coins are those of the shop. The entity that bears the name of the till is tried first, and
becomes known. -/
theorem coins_of_shop :
    let schema : Schema := ⟨[.mapping shop], ⟨"id", .scalar .integer⟩⟩
    let s := ((start [.mapping shop] {} .standard .collecting).run [.entity "Shop" .describe]).2
    let coins : MemberFact := .collection "Map" (.association "Money") (some (.basic "String"))
    let reply := s.step (.ask (.role "Shop.till.coins"))
    s.isOpen ∧ schema.Decides "Shop.till.coins" "Shop" "till.coins" coins ∧
      reply.answer =
        .role ⟨"Shop.till.coins", "Shop", .map, .association "Money", some (.basic "String")⟩ ∧
      reply.session.store.ledger = s.store.ledger ++
        [(⟨"Shop.till", .mapped shop, ⟨"id", .scalar .integer⟩⟩, [])] := by
  intro schema s coins reply
  have isOpen : s.isOpen := by decide +kernel
  obtain ⟨collection, -, -, -, -, growth⟩ := role_lookup_exact [.mapping shop] {} .standard
    .collecting [.entity "Shop" .describe] "Shop.till.coins" isOpen
  have kind : Collection.Kind.ofShape "Map" = .map := by decide +kernel
  have answer := collection _ _ _ _ _ shop_decides_coins
  rw [kind] at answer
  exact ⟨isOpen, shop_decides_coins, answer, (growth rfl).1⟩

end Session

end EntityQuery
