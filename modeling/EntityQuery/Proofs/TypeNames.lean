import EntityQuery.QueryType
import Mathlib.Data.List.Nodup

/-!
# Names of types

Messages print types by name, and a name may hold any text: the names of enumerations, entities and
components are printed as they stand, with colons, angle brackets or the spelling of another type in
them.

**The law** (`QueryType.name_eq_iff`): still, two types have one name exactly if they are equal up to
the roles and the keys of the collections in them, which a name does not show. A name starts with a
word that has neither a colon nor a bracket, and the first of these marks ends it. So the word and
what follows it can be told apart, and they say how the type is built; inside a collection the
argument starts again, after the bracket at the end is gone.
-/

namespace EntityQuery

theorem Scalar.mem_all (s : Scalar) : s ∈ all := by cases s <;> decide

theorem Collection.Kind.mem_all (kind : Kind) : kind ∈ all := by cases kind <;> decide

/-- No two scalars have one name, and none is called unknown. -/
theorem Scalar.nodup_names : ("Unknown" :: all.map name).Nodup := by decide +kernel

theorem Scalar.name_injective : Function.Injective name := by
  intro s s' same
  exact List.inj_on_of_nodup_map (List.nodup_cons.mp nodup_names).2 s.mem_all s'.mem_all same

theorem Scalar.name_ne_unknown (s : Scalar) : s.name ≠ "Unknown" := by
  intro same
  exact (List.nodup_cons.mp nodup_names).1 (same ▸ List.mem_map_of_mem s.mem_all)

theorem Collection.Kind.name_injective : Function.Injective name := by
  intro kind kind' same
  have distinct : (all.map name).Nodup := by decide +kernel
  exact List.inj_on_of_nodup_map distinct kind.mem_all kind'.mem_all same

namespace QueryType

/-! ## What a name shows -/

/-- The type with the role and the key of every collection in it erased. -/
def erase : QueryType → QueryType
  | .collection _ kind element _ => .collection "" kind element.erase none
  | type => type

/-- A name does not show what is erased. -/
theorem name_erase (type : QueryType) : type.erase.name = type.name := by
  induction type with
  | collection role kind element key ihElement ihKey => simp only [erase, name, ihElement]
  | scalar s => rfl
  | enumeration className => rfl
  | entity entityName => rfl
  | embedded className => rfl
  | unknown => rfl

/-! ## The word at the start of a name -/

/-- The word that a name starts with. -/
def word : QueryType → String
  | .scalar s => s.name
  | .enumeration _ => "Enum"
  | .entity _ => "Entity"
  | .embedded _ => "Embedded"
  | .collection _ kind _ _ => kind.name
  | .unknown => "Unknown"

/-- What follows the word. -/
def afterWord : QueryType → List Char
  | .enumeration text | .entity text | .embedded text => ':' :: text.toList
  | .collection _ _ element _ => '<' :: (element.name.toList ++ ['>'])
  | .scalar _ | .unknown => []

theorem toList_name (type : QueryType) : type.name.toList = type.word.toList ++ type.afterWord := by
  cases type <;> simp [name, word, afterWord]

/-- The character belongs to the word at the start of a name. -/
def isLetter (c : Char) : Bool := c != ':' && c != '<'

theorem all_isLetter_word (type : QueryType) : type.word.toList.all isLetter := by
  cases type with
  | scalar s => cases s <;> simp [word, Scalar.name, isLetter]
  | collection role kind element key => cases kind <;> simp [word, Collection.Kind.name, isLetter]
  | _ => simp [word, isLetter]

/-- The word ends at the first mark, whatever text comes after. -/
theorem takeWhile_name (type : QueryType) :
    type.name.toList.takeWhile isLetter = type.word.toList := by
  have ended : type.afterWord.takeWhile isLetter = [] := by
    cases type <;> simp [afterWord, isLetter]
  rw [toList_name, List.takeWhile_append_of_pos (List.all_eq_true.mp type.all_isLetter_word), ended,
    List.append_nil]

/-- **A name can be read in one way only**, as a word and what follows it. -/
theorem parts_of_name_eq {a b : QueryType} (same : a.name = b.name) :
    a.word = b.word ∧ a.afterWord = b.afterWord := by
  have words : a.word = b.word := by
    rw [← String.toList_inj, ← takeWhile_name, ← takeWhile_name, same]
  refine ⟨words, ?_⟩
  have whole := congrArg String.toList same
  rw [toList_name, toList_name, words] at whole
  exact List.append_cancel_left whole

theorem text_of_colon {s t : String} (same : ':' :: s.toList = ':' :: t.toList) : s = t :=
  String.toList_inj.mp (List.cons.inj same).2

/-- The name of the elements stands between the brackets. -/
theorem name_of_brackets {a b : QueryType}
    (same : '<' :: (a.name.toList ++ ['>']) = '<' :: (b.name.toList ++ ['>'])) :
    a.name = b.name :=
  String.toList_inj.mp (List.append_cancel_right (List.cons.inj same).2)

/-! ## Types with one name -/

/-- Types that have one name are equal once roles and keys are erased. -/
theorem erase_eq_of_name_eq {a b : QueryType} (same : a.name = b.name) : a.erase = b.erase := by
  -- what follows the word tells plain, named and collection types apart, and the word does the rest
  induction a generalizing b with
  | scalar s =>
    obtain ⟨words, rest⟩ := parts_of_name_eq same
    cases b with
    | scalar s' => rw [Scalar.name_injective words]
    | unknown => exact absurd words s.name_ne_unknown
    | _ => cases rest
  | unknown =>
    obtain ⟨words, rest⟩ := parts_of_name_eq same
    cases b with
    | scalar s => exact absurd words.symm s.name_ne_unknown
    | unknown => rfl
    | _ => cases rest
  | enumeration text =>
    obtain ⟨words, rest⟩ := parts_of_name_eq same
    cases b with
    | enumeration text' => rw [text_of_colon rest]
    | _ => simp [word, afterWord] at words rest
  | entity text =>
    obtain ⟨words, rest⟩ := parts_of_name_eq same
    cases b with
    | entity text' => rw [text_of_colon rest]
    | _ => simp [word, afterWord] at words rest
  | embedded text =>
    obtain ⟨words, rest⟩ := parts_of_name_eq same
    cases b with
    | embedded text' => rw [text_of_colon rest]
    | _ => simp [word, afterWord] at words rest
  | collection role kind element key ihElement ihKey =>
    obtain ⟨words, rest⟩ := parts_of_name_eq same
    cases b with
    | collection role' kind' element' key' =>
      have elements := ihElement (name_of_brackets rest)
      rw [erase, erase, Collection.Kind.name_injective words, elements]
    | _ => cases rest

/-- **A name identifies a type up to roles and keys.** Whatever texts stand inside two types, and
however deep collections are nested in them, they have one name exactly if they become equal once
the role and the key of every collection in them are erased. -/
theorem name_eq_iff (a b : QueryType) : a.name = b.name ↔ a.erase = b.erase := by
  refine ⟨erase_eq_of_name_eq, ?_⟩
  intro same
  rw [← name_erase a, same, name_erase b]

end QueryType

end EntityQuery
