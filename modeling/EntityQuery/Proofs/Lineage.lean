import EntityQuery.ClassModel.Basic
import EntityQuery.Mapping
import Mathlib.Data.List.Nodup
import Mathlib.Data.List.Perm.Subperm
import Mathlib.Data.Nat.Find

/-!
# Lineages are complete

A lineage is cut off after as many steps as its table has entries, and one more. The name that is
`n` steps above another is `climb parent n`, with no cut. The lineage lists these names as far as
it goes, and whatever can be reached by climbing at all is on it (`mem_lineage_iff`): a climb that
is as short as possible meets no name twice, and all its names but the last have an entry, so that
it has no more steps than there are entries.

It follows that descent, of classes and of mapped entities, is what it should be: one step up or
more, with no bound on their number. In particular it is transitive, also on circles.

There is another way not to go round in circles for ever, which is to keep a record of the names
visited and to stop at the first name that is met again (`Ascent`). On a finite table such a walk
comes to an end (`exists_ascent`). It visits what the lineage lists, and a search that takes the
first answer has the same outcome on both, so that descent and inheritance do not depend on which
of the two ways is taken.
-/

namespace EntityQuery

/-- The name that is `n` steps above. -/
def climb (parent : String → Option String) : (n : Nat) → (name : String) → Option String
  | 0, name => some name
  | n + 1, name => (parent name).bind (climb parent n)

section Climb

variable {parent : String → Option String} {name other : String} {m n : Nat}

theorem climb_succ (n : Nat) (name : String) :
    climb parent (n + 1) name = (parent name).bind (climb parent n) := rfl

theorem climb_add (m n : Nat) (name : String) :
    climb parent (m + n) name = (climb parent m name).bind (climb parent n) := by
  induction m generalizing name with
  | zero =>
    rw [Nat.zero_add]
    rfl
  | succ m ih =>
    rw [Nat.succ_add, climb_succ, climb_succ]
    cases parent name with
    | none => rfl
    | some above => exact ih above

/-- Below the top there is a way up. -/
theorem climb_of_lt (reached : climb parent n name = some other) (lt : m < n) :
    ∃ below, climb parent m name = some below ∧ (parent below).isSome := by
  obtain ⟨k, rfl⟩ := Nat.exists_eq_add_of_lt lt
  rw [Nat.add_assoc, climb_add] at reached
  obtain ⟨below, here, rest⟩ := Option.bind_eq_some_iff.mp reached
  refine ⟨below, here, ?_⟩
  obtain ⟨above, step, -⟩ := Option.bind_eq_some_iff.mp rest
  rw [step]
  rfl

/-- A climb that meets a name twice can leave out what is in between. -/
theorem climb_shortcut (reached : climb parent n name = some other) {i j : Nat} (le : j ≤ n)
    (same : climb parent i name = climb parent j name) :
    climb parent (i + (n - j)) name = some other := by
  rw [climb_add, same, ← climb_add, Nat.add_sub_cancel' le]
  exact reached

/-- **No climb has to be longer than the table.** -/
theorem exists_climb_le {keys : List String} (entries : ∀ name, (parent name).isSome → name ∈ keys)
    (reached : climb parent n name = some other) :
    ∃ m ≤ keys.length, climb parent m name = some other := by
  have some_climb : ∃ n, climb parent n name = some other := ⟨n, reached⟩
  -- a shortest climb; the names below its top are all different and all have an entry
  let shortest := Nat.find some_climb
  have top : climb parent shortest name = some other := Nat.find_spec some_climb
  let met := (List.range shortest).map (climb parent · name)
  have distinct : met.Nodup := by
    refine List.nodup_range.map_on ?_
    intro i hi j hj same
    rw [List.mem_range] at hi hj
    rcases Nat.lt_trichotomy i j with lt | eq | gt
    · have shorter := climb_shortcut top (Nat.le_of_lt hj) same
      exact absurd shorter (Nat.find_min some_climb (by omega))
    · exact eq
    · have shorter := climb_shortcut top (Nat.le_of_lt hi) same.symm
      exact absurd shorter (Nat.find_min some_climb (by omega))
  have listed : met ⊆ keys.map some := by
    intro here present
    obtain ⟨i, hi, rfl⟩ := List.mem_map.mp present
    obtain ⟨below, eq, goes⟩ := climb_of_lt top (List.mem_range.mp hi)
    rw [eq]
    exact List.mem_map_of_mem (entries below goes)
  have short := (distinct.subperm listed).length_le
  rw [List.length_map, List.length_map, List.length_range] at short
  exact ⟨shortest, short, top⟩

end Climb

/-! ## What a lineage lists -/

theorem lineage_getElem? (parent : String → Option String) (limit : Nat) (name : String)
    (n : Nat) :
    (lineage parent limit name)[n]? = if n < limit then climb parent n name else none := by
  induction limit generalizing name n with
  | zero => rfl
  | succ limit ih =>
    unfold lineage
    cases n with
    | zero => simp [climb]
    | succ n =>
      rw [List.getElem?_cons_succ, climb_succ]
      cases parent name with
      | none => simp
      | some above => simp [ih]

theorem lineage_listed {parent : String → Option String} {limit n : Nat} {name : String}
    (lt : n < (lineage parent limit name).length) :
    (lineage parent limit name)[n]? = climb parent n name := by
  have listed := lineage_getElem? parent limit name n
  split at listed
  · exact listed
  · rw [List.getElem?_eq_getElem lt] at listed
    cases listed

/-- **A lineage as long as its table lists all that can be reached.** -/
theorem mem_lineage_iff {parent : String → Option String} {keys : List String}
    (entries : ∀ name, (parent name).isSome → name ∈ keys) {name other : String} :
    other ∈ lineage parent (keys.length + 1) name ↔ ∃ n, climb parent n name = some other := by
  rw [List.mem_iff_getElem?]
  simp only [lineage_getElem?]
  constructor
  · rintro ⟨n, listed⟩
    split at listed
    · exact ⟨n, listed⟩
    · cases listed
  · rintro ⟨n, reached⟩
    obtain ⟨m, le, reached⟩ := exists_climb_le entries reached
    refine ⟨m, ?_⟩
    rw [if_pos (by omega)]
    exact reached

/-! ## Walks with a record of visited names -/

/-- **The walk upward that does not visit a name twice.** It ends at a name that has been visited or
that has nothing above it, and `names` are those that it visits. -/
inductive Ascent (parent : String → Option String) : (visited : List String) → (name : String) →
    (names : List String) → Prop
  | again {visited : List String} {name : String} :
      name ∈ visited → Ascent parent visited name []
  | top {visited : List String} {name : String} :
      name ∉ visited → parent name = none → Ascent parent visited name [name]
  | up {visited names : List String} {name above : String} :
      name ∉ visited → parent name = some above → Ascent parent (name :: visited) above names →
      Ascent parent visited name (name :: names)

/-- **A walk that does not visit a name twice comes to an end.** -/
theorem exists_ascent {parent : String → Option String} {keys : List String}
    (entries : ∀ name, (parent name).isSome → name ∈ keys) (visited : List String)
    (name : String) : ∃ names, Ascent parent visited name names := by
  -- each step up takes one entry from those that have not been visited
  induction left : (keys.filter (· ∉ visited)).length using Nat.strongRecOn
    generalizing visited name with
  | ind n ih =>
    by_cases met : name ∈ visited
    · exact ⟨[], .again met⟩
    · cases step : parent name with
      | none => exact ⟨[name], .top met step⟩
      | some above =>
        have listed : name ∈ keys := entries name (by rw [step]; rfl)
        have fewer : (keys.filter (· ∉ name :: visited)).length < n := by
          have smaller : keys.filter (· ∉ name :: visited) =
              (keys.filter (· ∉ visited)).filter (· ≠ name) := by
            simp [List.filter_filter]
          rw [smaller, ← left, List.length_filter_lt_length_iff_exists]
          exact ⟨name, by simp [listed, met], by simp⟩
        obtain ⟨names, walk⟩ := ih _ fewer (name :: visited) above rfl
        exact ⟨name :: names, .up met step walk⟩

/-- A search for the first answer need not go on to names that it has come past. -/
theorem findSome?_of_begins {α : Type} {names more : List String} {find? : String → Option α}
    (begins : names <+: more) (nothingNew : ∀ name ∈ more, name ∈ names) :
    more.findSome? find? = names.findSome? find? := by
  cases found : names.findSome? find? with
  | some value => exact begins.findSome?_eq_some found
  | none =>
    rw [List.findSome?_eq_none_iff] at found ⊢
    exact fun name listed => found name (nothingNew name listed)

namespace Ascent

variable {parent : String → Option String} {keys visited names : List String} {name other : String}

/-- The names visited are those climbed to, one after the other. -/
theorem getElem? (walk : Ascent parent visited name names) {n : Nat} (lt : n < names.length) :
    names[n]? = climb parent n name := by
  induction walk generalizing n with
  | again _ => cases lt
  | top _ _ =>
    obtain rfl : n = 0 := by simpa using lt
    rfl
  | up _ step _ ih =>
    cases n with
    | zero => rfl
    | succ n =>
      rw [climb_succ, step]
      exact ih (Nat.lt_of_succ_lt_succ lt)

/-- The walk leaves nothing out: where it starts is visited, and so is all that is directly above a
name that it visits. -/
theorem closed (walk : Ascent parent visited name names) :
    name ∈ visited ++ names ∧
      ∀ below ∈ names, ∀ above, parent below = some above → above ∈ visited ++ names := by
  induction walk with
  | again met => simp [met]
  | top _ none => simp [none]
  | @up visited names name above _ step _ ih =>
    have moved : ∀ {x}, x ∈ name :: visited ++ names → x ∈ visited ++ name :: names :=
      List.perm_middle.symm.mem_iff.mp
    refine ⟨by simp, ?_⟩
    intro below here higher goes
    rcases List.mem_cons.mp here with rfl | later
    · obtain rfl : above = higher := Option.some.inj (step.symm.trans goes)
      exact moved ih.1
    · exact moved (ih.2 below later higher goes)

/-- **A walk that has visited nothing yet visits all that can be reached.** -/
theorem mem_iff (walk : Ascent parent [] name names) :
    other ∈ names ↔ ∃ n, climb parent n name = some other := by
  constructor
  · intro visited
    obtain ⟨n, lt, here⟩ := List.getElem_of_mem visited
    refine ⟨n, ?_⟩
    rw [← walk.getElem? lt, List.getElem?_eq_getElem lt, here]
  · rintro ⟨n, reached⟩
    obtain ⟨start, above⟩ := walk.closed
    rw [List.nil_append] at start above
    -- what is visited is closed under going up, so every climb stays in it
    induction n generalizing other with
    | zero =>
      cases reached
      exact start
    | succ n ih =>
      rw [climb_add] at reached
      obtain ⟨below, here, step⟩ := Option.bind_eq_some_iff.mp reached
      have goes : parent below = some other := by simpa [climb] using step
      exact above below (ih here) other goes

/-- **It visits what the lineage lists.** -/
theorem mem_lineage (entries : ∀ name, (parent name).isSome → name ∈ keys)
    (walk : Ascent parent [] name names) :
    other ∈ lineage parent (keys.length + 1) name ↔ other ∈ names := by
  rw [mem_lineage_iff entries, walk.mem_iff]

/-- **A search for the first answer has the same outcome on both.** -/
theorem findSome?_lineage {α : Type} (entries : ∀ name, (parent name).isSome → name ∈ keys)
    (walk : Ascent parent [] name names) (find? : String → Option α) :
    (lineage parent (keys.length + 1) name).findSome? find? = names.findSome? find? := by
  -- both list climbs from the start, so the longer one begins with the shorter one
  rcases Nat.le_total names.length (lineage parent (keys.length + 1) name).length with le | le
  · have begins : names <+: lineage parent (keys.length + 1) name := by
      refine List.prefix_iff_getElem?.mpr fun n lt => ?_
      have lt' := Nat.lt_of_lt_of_le lt le
      rw [lineage_listed lt', ← walk.getElem? lt, List.getElem?_eq_getElem lt]
    exact findSome?_of_begins begins fun _ => (walk.mem_lineage entries).mp
  · have begins : lineage parent (keys.length + 1) name <+: names := by
      refine List.prefix_iff_getElem?.mpr fun n lt => ?_
      have lt' := Nat.lt_of_lt_of_le lt le
      rw [walk.getElem? lt', ← lineage_listed lt, List.getElem?_eq_getElem lt]
    exact (findSome?_of_begins begins fun _ => (walk.mem_lineage entries).mpr).symm

end Ascent

/-- Descent by lineages is a climb of one step or more. -/
theorem descends_iff {parent : String → Option String} {keys : List String}
    (entries : ∀ name, (parent name).isSome → name ∈ keys) {name other : String} :
    ((parent name).any fun above => (lineage parent (keys.length + 1) above).contains other) ↔
      ∃ n, climb parent (n + 1) name = some other := by
  simp only [climb_succ]
  cases parent name with
  | none => simp
  | some above =>
    rw [Option.any_some, List.contains_iff_mem, mem_lineage_iff entries]
    rfl

/-- A name with a value is the name of an entry. -/
theorem Table.mem_of_get? {α : Type} {t : Table α} {name : String} {value : α}
    (present : t.get? name = some value) : name ∈ t.entries.map (·.1) := by
  unfold get? at present
  obtain ⟨before, after, eq, -⟩ := List.lookup_eq_some_iff.mp present
  rw [eq, List.map_append]
  exact List.mem_append_right _ (List.mem_cons_self)

theorem climb_trans {parent : String → Option String} {a b c : String}
    (lower : ∃ n, climb parent (n + 1) a = some b) (upper : ∃ n, climb parent (n + 1) b = some c) :
    ∃ n, climb parent (n + 1) a = some c := by
  obtain ⟨m, lower⟩ := lower
  obtain ⟨n, upper⟩ := upper
  refine ⟨m + 1 + n, ?_⟩
  rw [Nat.add_assoc, climb_add, lower]
  exact upper

namespace ClassModel

theorem mem_of_superclass? (model : ClassModel) (name : String)
    (extended : (model.superclass? name).isSome) : name ∈ model.classes.entries.map (·.1) := by
  obtain ⟨above, eq⟩ := Option.isSome_iff_exists.mp extended
  obtain ⟨fact, present, -⟩ := Option.bind_eq_some_iff.mp eq
  exact Table.mem_of_get? present

/-- A model has as many classes as names of classes. -/
theorem size_eq (model : ClassModel) :
    model.classes.size = (model.classes.entries.map (·.1)).length :=
  (List.length_map _).symm

/-- A class descends from those that are one step above it or more. -/
theorem descendsFrom_iff {model : ClassModel} {className ancestor : String} :
    model.descendsFrom className ancestor ↔
      ∃ n, climb model.superclass? (n + 1) className = some ancestor := by
  unfold descendsFrom ancestry
  rw [size_eq]
  exact descends_iff model.mem_of_superclass?

/-- What a class descends from is what a walk from its superclass visits. The name at which the walk
turns back is no exception, since it has been visited before. -/
theorem descendsFrom_iff_visited {model : ClassModel} {className above ancestor : String}
    {names : List String} (extended : model.superclass? className = some above)
    (walk : Ascent model.superclass? [] above names) :
    model.descendsFrom className ancestor ↔ ancestor ∈ names := by
  unfold descendsFrom ancestry
  rw [extended, Option.any_some, List.contains_iff_mem, size_eq,
    walk.mem_lineage model.mem_of_superclass?]

/-- A field is found where a walk from the class first comes to one that discloses it. -/
theorem inheritedFieldType?_eq_visited {model : ClassModel} {className : String}
    {names : List String} (walk : Ascent model.superclass? [] className names) (field : String) :
    model.inheritedFieldType? className field = names.findSome? (model.disclosed? · field) := by
  unfold inheritedFieldType? ancestry
  rw [size_eq, walk.findSome?_lineage model.mem_of_superclass?]

theorem descendsFrom_trans {model : ClassModel} {a b c : String} (lower : model.descendsFrom a b)
    (upper : model.descendsFrom b c) : model.descendsFrom a c := by
  rw [descendsFrom_iff] at lower upper ⊢
  exact climb_trans lower upper

end ClassModel

namespace Mapping

theorem mem_of_parent? (mapping : Mapping) (name : String)
    (extended : (mapping.parent? name).isSome) : name ∈ mapping.entities.entries.map (·.1) := by
  obtain ⟨above, eq⟩ := Option.isSome_iff_exists.mp extended
  obtain ⟨entity, present, -⟩ := Option.bind_eq_some_iff.mp eq
  exact Table.mem_of_get? present

/-- A mapping has as many entities as names of entities. -/
theorem size_eq (mapping : Mapping) :
    mapping.entities.size = (mapping.entities.entries.map (·.1)).length :=
  (List.length_map _).symm

/-- An entity descends from those that are one step above it or more. -/
theorem descendsFrom_iff {mapping : Mapping} {entity ancestor : String} :
    mapping.descendsFrom entity ancestor ↔
      ∃ n, climb mapping.parent? (n + 1) entity = some ancestor := by
  unfold descendsFrom ancestry
  rw [size_eq]
  exact descends_iff mapping.mem_of_parent?

/-- What an entity descends from is what a walk from its parent visits. -/
theorem descendsFrom_iff_visited {mapping : Mapping} {entity above ancestor : String}
    {names : List String} (extended : mapping.parent? entity = some above)
    (walk : Ascent mapping.parent? [] above names) :
    mapping.descendsFrom entity ancestor ↔ ancestor ∈ names := by
  unfold descendsFrom ancestry
  rw [extended, Option.any_some, List.contains_iff_mem, size_eq,
    walk.mem_lineage mapping.mem_of_parent?]

/-- A property is found where a walk from the entity first comes to one that declares it. -/
theorem property?_eq_visited {mapping : Mapping} {entity : String} {names : List String}
    (walk : Ascent mapping.parent? [] entity names) (property : String) :
    mapping.property? entity property = names.findSome? (mapping.ownProperty? · property) := by
  unfold property? ancestry
  rw [size_eq, walk.findSome?_lineage mapping.mem_of_parent?]

theorem descendsFrom_trans {mapping : Mapping} {a b c : String} (lower : mapping.descendsFrom a b)
    (upper : mapping.descendsFrom b c) : mapping.descendsFrom a c := by
  rw [descendsFrom_iff] at lower upper ⊢
  exact climb_trans lower upper

end Mapping

end EntityQuery
