import EntityQuery.Event
import EntityQuery.Store.Basic

/-!
# Look-ups

A look-up reads a store and may add to it; it gives a value, the store as it is afterwards, and the
events on the way. Events are an output only: no look-up can read them, so they never influence a
value or a store.

An attempt is a look-up that may fail. What was added to the store before the failure stays.
-/

namespace EntityQuery

/-- What comes of a look-up. -/
@[ext]
structure Outcome (α : Type) where
  value : α
  store : Store
  events : List Event

/-- A computation on the store of a session. -/
def Lookup (α : Type) : Type := Store → Outcome α

namespace Lookup

instance : Monad Lookup where
  pure value := fun store => ⟨value, store, []⟩
  bind first next := fun store =>
    let before := first store
    let after := next before.value before.store
    ⟨after.value, after.store, before.events ++ after.events⟩

/-- Tells an event. -/
def emit (event : Event) : Lookup Unit := fun store => ⟨(), store, [event]⟩

/-- Reads from the store. -/
def read {α : Type} (f : Store → α) : Lookup α := fun store => ⟨f store, store, []⟩

@[simp] theorem pure_apply {α : Type} (value : α) (store : Store) :
    (pure value : Lookup α) store = ⟨value, store, []⟩ := rfl

@[simp] theorem bind_value {α β : Type} (first : Lookup α) (next : α → Lookup β)
    (store : Store) :
    ((first >>= next) store).value = (next (first store).value (first store).store).value := rfl

@[simp] theorem bind_store {α β : Type} (first : Lookup α) (next : α → Lookup β)
    (store : Store) :
    ((first >>= next) store).store = (next (first store).value (first store).store).store := rfl

@[simp] theorem bind_events {α β : Type} (first : Lookup α) (next : α → Lookup β)
    (store : Store) :
    ((first >>= next) store).events =
      (first store).events ++ (next (first store).value (first store).store).events := rfl

/-- Look-ups compose as computations do. The events are those of the parts in order, so the laws
are those of appending lists. -/
instance : LawfulMonad Lookup := LawfulMonad.mk' Lookup
  (fun x => funext fun store => Outcome.ext rfl rfl (List.append_nil (x store).events))
  (fun _ _ => rfl)
  (fun _ _ _ => funext fun _ => Outcome.ext rfl rfl (List.append_assoc _ _ _))

end Lookup

/-- A look-up that may fail. -/
abbrev Attempt (ε α : Type) : Type := ExceptT ε Lookup α

end EntityQuery
