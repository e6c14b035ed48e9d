/-!
# Name tables

A table takes names to values. It is kept in the order of the names' code points, which is the
order in which its entries are listed. Inserting under a name that is there replaces its value.

The one law that users need is `get?_insert`: a look-up after an insertion sees the new value at
its name and the old table elsewhere. It holds of every table, sorted or not.
-/

namespace EntityQuery

/-- A finite map from names, as its entries in order. -/
structure Table (α : Type) where
  entries : List (String × α) := []

namespace Table

variable {α : Type}

/-- The table with no entries. -/
def empty : Table α := {}

/-- The value under a name. -/
def get? (t : Table α) (name : String) : Option α := t.entries.lookup name

/-- The name has a value. -/
def contains (t : Table α) (name : String) : Bool := (t.get? name).isSome

/-- The number of entries. -/
def size (t : Table α) : Nat := t.entries.length

/-- Puts an entry in its place among entries that are in order. -/
def place (name : String) (value : α) : List (String × α) → List (String × α)
  | [] => [(name, value)]
  | (other, kept) :: rest =>
    if name = other then (name, value) :: rest
    else if name < other then (name, value) :: (other, kept) :: rest
    else (other, kept) :: place name value rest

/-- The table with `value` under `name`. -/
def insert (t : Table α) (name : String) (value : α) : Table α := ⟨place name value t.entries⟩

/-- The table of some entries, inserted one after the other. -/
def ofList (entries : List (String × α)) : Table α :=
  entries.foldl (fun t entry => t.insert entry.1 entry.2) empty

@[simp] theorem get?_empty (name : String) : (empty : Table α).get? name = none := rfl

theorem lookup_cons_eq (sought : String) (entry : String × α) (rest : List (String × α)) :
    (entry :: rest).lookup sought =
      if sought = entry.1 then some entry.2 else rest.lookup sought := by
  rw [List.lookup_cons]
  by_cases h : sought = entry.1
  · simp [h]
  · simp [h, beq_eq_false_iff_ne.mpr h]

theorem lookup_place (name : String) (value : α) (entries : List (String × α))
    (sought : String) :
    (place name value entries).lookup sought =
      if sought = name then some value else entries.lookup sought := by
  induction entries with
  | nil => simp [place, lookup_cons_eq]
  | cons entry rest ih =>
    obtain ⟨other, kept⟩ := entry
    unfold place
    by_cases same : name = other
    · subst same
      by_cases h : sought = name <;> simp [lookup_cons_eq, h]
    · rw [if_neg same]
      by_cases before : name < other
      · rw [if_pos before]
        simp [lookup_cons_eq]
      · rw [if_neg before, lookup_cons_eq, lookup_cons_eq, ih]
        -- The kept entry and the new one cannot both be the one sought.
        by_cases h : sought = other
        · subst h
          simp [Ne.symm same]
        · simp [h]

/-- The last writer wins: a look-up sees the insertion at its name, and the table elsewhere. -/
@[simp] theorem get?_insert (t : Table α) (name : String) (value : α) (sought : String) :
    (t.insert name value).get? sought = if sought = name then some value else t.get? sought :=
  lookup_place name value t.entries sought

end Table

end EntityQuery
