import EntityQuery.Member
import Mathlib.Data.List.Basic
import Mathlib.Data.List.TakeWhile

/-!
# Spellings of a name

One and the same class is declared as `SortedSet`, as `java.util.SortedSet`, or with white space and
generic arguments around it. A *spelling* of a simple name puts a package in front of it, white
space around both, and, where a shape is declared, generic arguments behind all that. A package is
any text: it may hold dots, and white space of its own.

**The law** (`MemberFact.spelling_immaterial`): kinds of collection and scalars are found under the
simple name alone, in whatever spelling it is declared, and so the type of a member does not depend
on the spelling of any name in its declaration. It rests on the order of the cuts. The generic
arguments go first, since they hold dots and brackets of their own; then the white space around the
rest, which ends at the dot after the package even if the package is blank; and only then the
package.

Arrays are apart: the package in front of an array type stays, so a qualified array is no scalar.
-/

namespace EntityQuery

namespace Text

variable {p : Char → Bool} {mark : Char} {cs left right kept before after : List Char}

/-! ## Cuts -/

/-- The first part of a text is cut off at the mark after it, or at the end. -/
theorem beforeFirst_append (absent : mark ∉ left) (stops : ∀ c ∈ right.head?, c = mark) :
    beforeFirst mark (left ++ right) = left := by
  have others : ∀ c ∈ left, (c != mark) = true := by
    intro c mem
    exact bne_iff_ne.mpr (ne_of_mem_of_not_mem mem absent)
  unfold beforeFirst
  rw [List.takeWhile_append_of_pos others]
  cases right with
  | nil => exact List.append_nil left
  | cons c right =>
    obtain rfl : c = mark := stops c rfl
    rw [List.takeWhile_cons_of_neg (by simp), List.append_nil]

/-- The last part of a text is cut off at the mark before it, or at the start. -/
theorem afterLast_append (absent : mark ∉ right) (stops : ∀ c ∈ left.getLast?, c = mark) :
    afterLast mark (left ++ right) = right := by
  have reversed : beforeFirst mark (right.reverse ++ left.reverse) = right.reverse :=
    beforeFirst_append (by simpa using absent) (by simpa using stops)
  show (beforeFirst mark (left ++ right).reverse).reverse = right
  rw [List.reverse_append, reversed, List.reverse_reverse]

/-- A suffix that does not hold the mark does not reach over it. -/
theorem suffix_of_suffix_append {part : List Char} (absent : mark ∉ part)
    (stops : ∀ c ∈ left.getLast?, c = mark) (ends : part <:+ left ++ right) : part <:+ right := by
  rcases left.eq_nil_or_concat with rfl | ⟨left, c, rfl⟩
  · exact ends
  · rw [List.concat_eq_append] at ends stops
    obtain rfl : c = mark := stops c (by simp)
    have marked : c :: right <:+ left ++ [c] ++ right := ⟨left, by simp⟩
    rcases List.suffix_or_suffix_of_suffix ends marked with short | long
    · rcases List.suffix_cons_iff.mp short with rfl | short
      · exact absurd List.mem_cons_self absent
      · exact short
    · exact absurd (long.subset List.mem_cons_self) absent

/-! ## White space at the ends -/

theorem dropWhile_of_head (first : cs.head?.any p = false) : cs.dropWhile p = cs := by
  cases cs with
  | nil => rfl
  | cons c cs => exact List.dropWhile_cons_of_neg (by simpa using first)

theorem dropAround_of_ends (first : cs.head?.any p = false) (last : cs.getLast?.any p = false) :
    dropAround p cs = cs := by
  have last : cs.reverse.head?.any p = false := by rwa [List.head?_reverse]
  unfold dropAround
  rw [dropWhile_of_head first, dropWhile_of_head last, List.reverse_reverse]

/-- Whatever may be dropped around a text does not count. -/
theorem dropAround_append (droppable : ∀ c ∈ before, p c) (droppable' : ∀ c ∈ after, p c)
    (cs : List Char) : dropAround p (before ++ cs ++ after) = dropAround p cs := by
  unfold dropAround
  rw [List.append_assoc, List.dropWhile_append_of_pos droppable, List.dropWhile_append]
  split
  · next gone => rw [List.dropWhile_eq_nil_iff.mpr droppable', List.isEmpty_iff.mp gone]
  · have droppable' : ∀ c ∈ after.reverse, p c := by simpa using droppable'
    rw [List.reverse_append, List.dropWhile_append_of_pos droppable']

/-- Dropping takes nothing from a text that stands at the end and is kept at both of its own. -/
theorem dropAround_append_kept (nonempty : kept ≠ []) (first : kept.head?.any p = false)
    (last : kept.getLast?.any p = false) (front : List Char) :
    dropAround p (front ++ kept) = front.dropWhile p ++ kept := by
  have first : (front.dropWhile p ++ kept).head?.any p = false := by
    cases rest : front.dropWhile p with
    | nil => exact first
    | cons c cs => simpa [rest] using List.head?_dropWhile_not p front
  have last : (front.dropWhile p ++ kept).getLast?.any p = false := by
    rwa [List.getLast?_append_of_ne_nil _ nonempty]
  calc dropAround p (front ++ kept)
      = dropAround p (front.takeWhile p ++ (front.dropWhile p ++ kept) ++ []) := by
        rw [List.append_nil, ← List.append_assoc, List.takeWhile_append_dropWhile]
    _ = dropAround p (front.dropWhile p ++ kept) :=
        dropAround_append (fun _ => List.mem_takeWhile_imp) (List.forall_mem_nil _) _
    _ = front.dropWhile p ++ kept := dropAround_of_ends first last

/-! ## Spellings -/

/-- The text is white space all through; it may be empty. -/
def Blank (text : String) : Prop := ∀ c ∈ text.toList, isBlank c

instance : DecidablePred Blank := fun text => List.decidableBAll (fun c => isBlank c) text.toList

/-- A simple name: no dot is in it, and it neither starts nor ends with white space. -/
structure Simple (name : String) : Prop where
  undotted : '.' ∉ name.toList
  first : name.toList.head?.any isBlank = false
  last : name.toList.getLast?.any isBlank = false

instance : DecidablePred Simple := fun name =>
  decidable_of_iff ('.' ∉ name.toList ∧ name.toList.head?.any isBlank = false ∧
      name.toList.getLast?.any isBlank = false)
    ⟨fun ⟨undotted, first, last⟩ => ⟨undotted, first, last⟩,
      fun simple => ⟨simple.undotted, simple.first, simple.last⟩⟩

/-- **A spelling of a name**: the package in front of it, if any, and the white space before and
after the whole. -/
structure Spelling (name : String) where
  before : String
  package? : Option String
  after : String
  blank_before : Blank before
  blank_after : Blank after

namespace Spelling

variable {name : String}

/-- The name as it stands. -/
def bare (name : String) : Spelling name where
  before := ""
  package? := none
  after := ""
  blank_before := nofun
  blank_after := nofun

/-- The package and the dot after it. -/
def lead (s : Spelling name) : String := s.package?.elim "" (· ++ ".")

/-- The name in this spelling. -/
def text (s : Spelling name) : String := s.before ++ (s.lead ++ name) ++ s.after

/-- The name in this spelling, with generic arguments if there are any: a bracket and the text that
follows it. -/
def token (s : Spelling name) (arguments? : Option String) : String :=
  s.text ++ arguments?.elim "" ("<" ++ ·)

@[simp] theorem text_bare (name : String) : (bare name).text = name := by simp [text, lead, bare]

@[simp] theorem token_bare (name : String) : (bare name).token none = name := by simp [token]

/-- Without the white space around it, a spelling is the name after something that ends in a dot, if
it is anything. -/
theorem trim_text (s : Spelling name) (simple : Simple name) :
    ∃ front, trim s.text.toList = front ++ name.toList ∧ ∀ c ∈ front.getLast?, c = '.' := by
  have inner : trim s.text.toList = trim (s.lead.toList ++ name.toList) := by
    unfold text
    rw [String.toList_append, String.toList_append, String.toList_append]
    exact dropAround_append s.blank_before s.blank_after _
  rw [inner]
  unfold lead
  cases s.package? with
  | none => exact ⟨[], dropAround_of_ends simple.first simple.last, nofun⟩
  | some package =>
    -- the dot is no white space, so the name and the dot stay, and of the package all but its start
    refine ⟨package.toList.dropWhile isBlank ++ ['.'], ?_, by simp⟩
    have last : ('.' :: name.toList).getLast?.any isBlank = false := by
      cases h : name.toList with
      | nil => decide
      | cons c cs => simpa [h] using simple.last
    have first : ('.' :: name.toList).head?.any isBlank = false := rfl
    have kept := dropAround_append_kept (List.cons_ne_nil _ _) first last package.toList
    simpa [trim] using kept

/-- No angle bracket is in the name or in the package. -/
def Unbracketed (s : Spelling name) : Prop :=
  '<' ∉ name.toList ∧ ∀ package ∈ s.package?, '<' ∉ package.toList

theorem Unbracketed.notMem_text {s : Spelling name} (plain : s.Unbracketed) :
    '<' ∉ s.text.toList := by
  have visible : isBlank '<' = false := rfl
  have before : '<' ∉ s.before.toList := fun mem => by simpa [visible] using s.blank_before _ mem
  have after : '<' ∉ s.after.toList := fun mem => by simpa [visible] using s.blank_after _ mem
  have lead : '<' ∉ s.lead.toList := by
    unfold Spelling.lead
    cases h : s.package? with
    | none => exact List.not_mem_nil
    | some package => simpa using plain.2 package h
  simp [text, before, after, lead, plain.1]

/-- The generic arguments are cut off, whatever is in them. -/
theorem beforeFirst_token {s : Spelling name} (plain : s.Unbracketed) (arguments? : Option String) :
    beforeFirst '<' (s.token arguments?).toList = s.text.toList := by
  unfold token
  rw [String.toList_append]
  refine beforeFirst_append plain.notMem_text ?_
  cases arguments? <;> simp

end Spelling

end Text

open Text (Simple Spelling)

variable {name : String}

/-! ## Kinds of collection -/

namespace Collection.Kind

theorem shapeKey_token {s : Spelling name} (simple : Simple name) (plain : s.Unbracketed)
    (arguments? : Option String) : shapeKey (s.token arguments?) = name := by
  obtain ⟨front, trimmed, dotted⟩ := s.trim_text simple
  unfold shapeKey
  rw [Spelling.beforeFirst_token plain, trimmed, Text.afterLast_append simple.undotted dotted]
  exact String.ofList_toList

/-- A shape declares what the table has for its simple name. -/
theorem ofShape_token {s : Spelling name} (simple : Simple name) (plain : s.Unbracketed)
    (arguments? : Option String) :
    ofShape (s.token arguments?) = (declaredShapes.lookup name).getD .bag := by
  unfold ofShape
  rw [shapeKey_token simple plain]

theorem ofShape_of_simple (simple : Simple name) (plain : '<' ∉ name.toList) :
    ofShape name = (declaredShapes.lookup name).getD .bag := by
  have bare : (Spelling.bare name).Unbracketed := ⟨plain, nofun⟩
  simpa using ofShape_token simple bare none

end Collection.Kind

/-! ## Scalars -/

namespace Scalar

/-- The name is that of an array type. -/
def IsArray (name : String) : Prop := "[]".toList <:+ name.toList

instance : DecidablePred IsArray := fun _ => decidable_of_iff _ List.isSuffixOf_iff_suffix

theorem declaredKey_text (s : Spelling name) (simple : Simple name) (single : ¬ IsArray name) :
    declaredKey s.text = name := by
  obtain ⟨front, trimmed, dotted⟩ := s.trim_text simple
  -- the brackets would have to be in the name, since there is no dot between them
  have single : "[]".toList.isSuffixOf (front ++ name.toList) = false := by
    rw [Bool.eq_false_iff, ne_eq, List.isSuffixOf_iff_suffix]
    exact fun ends => single (Text.suffix_of_suffix_append (by decide) dotted ends)
  unfold declaredKey
  simp only [trimmed, single, Text.afterLast_append simple.undotted dotted]
  exact String.ofList_toList

/-- A class name that is not an array declares what the table has for its simple name. -/
theorem ofDeclared?_text (s : Spelling name) (simple : Simple name) (single : ¬ IsArray name) :
    ofDeclared? s.text = declaredNames.lookup name := by
  unfold ofDeclared?
  rw [declaredKey_text s simple single]

theorem ofDeclared?_of_simple (simple : Simple name) (single : ¬ IsArray name) :
    ofDeclared? name = declaredNames.lookup name := by
  simpa using ofDeclared?_text (Spelling.bare name) simple single

-- what the exception is for: an array keeps its package, and the table has none with a package
example : ofDeclared? "byte[]" = some .binary ∧ ofDeclared? "java.lang.byte[]" = none := by
  decide +kernel

end Scalar

/-! ## Members -/

namespace MemberFact

/-- **Two facts that differ in nothing but spelling**: names of basic types other than arrays, and
shapes of collections, may be spelled differently, and so in the elements and the keys of a
collection. -/
inductive Respelt : MemberFact → MemberFact → Prop
  | basic {name : String} (s : Spelling name) (simple : Simple name)
      (single : ¬ Scalar.IsArray name) : Respelt (.basic s.text) (.basic name)
  | shape {name : String} (s : Spelling name) (simple : Simple name) (plain : s.Unbracketed)
      (arguments? : Option String) (element : MemberFact) (key : Option MemberFact) :
      Respelt (.collection (s.token arguments?) element key) (.collection name element key)
  | element {element element' : MemberFact} (shape : String) (key : Option MemberFact) :
      Respelt element element' →
        Respelt (.collection shape element key) (.collection shape element' key)
  | key {key key' : MemberFact} (shape : String) (element : MemberFact) :
      Respelt key key' →
        Respelt (.collection shape element (some key)) (.collection shape element (some key'))
  | refl (fact : MemberFact) : Respelt fact fact
  | symm {fact fact' : MemberFact} : Respelt fact fact' → Respelt fact' fact
  | trans {fact fact' fact'' : MemberFact} :
      Respelt fact fact' → Respelt fact' fact'' → Respelt fact fact''

/-- Facts that differ in spelling give one type, as members and as parts of a collection. -/
theorem Respelt.types_eq {fact fact' : MemberFact} (respelt : Respelt fact fact') :
    (∀ role, fact.typeAt role = fact'.typeAt role) ∧ fact.elementType = fact'.elementType := by
  induction respelt with
  | @basic name s simple single =>
    have same : elementType (.basic s.text) = elementType (.basic name) := by
      simp only [elementType, QueryType.ofDeclared]
      rw [Scalar.ofDeclared?_text s simple single, Scalar.ofDeclared?_of_simple simple single]
    exact ⟨fun _ => same, same⟩
  | shape s simple plain arguments? element key =>
    refine ⟨fun role => ?_, rfl⟩
    simp only [typeAt, Collection.Kind.ofShape_token simple plain,
      Collection.Kind.ofShape_of_simple simple plain.1]
  | element shape key _ ih =>
    refine ⟨fun role => ?_, rfl⟩
    simp only [typeAt, ih.2]
  | key shape element _ ih =>
    refine ⟨fun role => ?_, rfl⟩
    simp only [typeAt, Option.elim_some, ih.2]
  | refl _ => exact ⟨fun _ => rfl, rfl⟩
  | symm _ ih => exact ⟨fun role => (ih.1 role).symm, ih.2.symm⟩
  | trans _ _ ih ih' => exact ⟨fun role => (ih.1 role).trans (ih'.1 role), ih.2.trans ih'.2⟩

/-- **Spelling does not matter.** Whatever package without an angle bracket, white space and generic
arguments are around a simple name, a shape declares the kind that the name declares, and that is
the one in the table. With whatever package and white space, a class name that is not an array
declares the scalar that its simple name declares, and again that is the one in the table. Hence
facts that differ in nothing but such spellings give members of the same type. -/
theorem spelling_immaterial :
    (∀ (name : String) (s : Spelling name), Simple name → s.Unbracketed →
      ∀ arguments? : Option String,
        Collection.Kind.ofShape (s.token arguments?) = Collection.Kind.ofShape name ∧
        Collection.Kind.ofShape name = (Collection.Kind.declaredShapes.lookup name).getD .bag) ∧
    (∀ (name : String) (s : Spelling name), Simple name → ¬ Scalar.IsArray name →
      Scalar.ofDeclared? s.text = Scalar.ofDeclared? name ∧
      Scalar.ofDeclared? name = Scalar.declaredNames.lookup name) ∧
    ∀ fact fact' : MemberFact, Respelt fact fact' →
      ∀ role, fact.typeAt role = fact'.typeAt role := by
  refine ⟨?_, ?_, fun _ _ respelt => respelt.types_eq.1⟩
  · intro name s simple plain arguments?
    have table := Collection.Kind.ofShape_of_simple simple plain.1
    exact ⟨(Collection.Kind.ofShape_token simple plain arguments?).trans table.symm, table⟩
  · intro name s simple single
    have table := Scalar.ofDeclared?_of_simple simple single
    exact ⟨(Scalar.ofDeclared?_text s simple single).trans table.symm, table⟩

/-- A map declared with blanks, packages and nested arguments all through, against the same in
simple names. The package of the map has a blank in it and that of the keys is nothing else; the
arguments hold dots, brackets and the name of another kind. -/
theorem prices_in_any_spelling :
    let map : Spelling "SortedMap" := ⟨" \u3000", some "java. util", "\t", by decide, by decide⟩
    let amount : Spelling "BigDecimal" := ⟨"", some "java.math", " ", by decide, by decide⟩
    let code : Spelling "UUID" := ⟨"\n", some " ", "", by decide, by decide⟩
    let arguments := "java.util.UUID, List<java.math.BigDecimal> >"
    let spelled := MemberFact.collection (map.token (some arguments)) (.basic amount.text)
      (some (.basic code.text))
    let plain := MemberFact.collection "SortedMap" (.basic "BigDecimal") (some (.basic "UUID"))
    map.token (some arguments) =
        " \u3000java. util.SortedMap\t<java.util.UUID, List<java.math.BigDecimal> >" ∧
      amount.text = "java.math.BigDecimal " ∧ code.text = "\n .UUID" ∧
      Simple "SortedMap" ∧ map.Unbracketed ∧
      Collection.Kind.ofShape (map.token (some arguments)) = Collection.Kind.ofShape "SortedMap" ∧
      Collection.Kind.ofShape "SortedMap" = .sortedMap ∧
      Simple "BigDecimal" ∧ ¬ Scalar.IsArray "BigDecimal" ∧
      Scalar.ofDeclared? amount.text = Scalar.ofDeclared? "BigDecimal" ∧
      Scalar.ofDeclared? "BigDecimal" = some .bigDecimal ∧
      Respelt spelled plain ∧ spelled.typeAt "Shop.prices" = plain.typeAt "Shop.prices" ∧
      plain.typeAt "Shop.prices" =
        .collection "Shop.prices" .sortedMap (.scalar .bigDecimal) (some (.scalar .uuid)) := by
  intro map amount code arguments spelled plain
  obtain ⟨kinds, scalars, types⟩ := spelling_immaterial
  have mapSimple : Simple "SortedMap" := by decide
  have amountSimple : Simple "BigDecimal" := by decide
  have codeSimple : Simple "UUID" := by decide
  have mapPlain : map.Unbracketed := ⟨by decide, by rintro _ ⟨⟩; decide⟩
  have amountSingle : ¬ Scalar.IsArray "BigDecimal" := by decide
  have codeSingle : ¬ Scalar.IsArray "UUID" := by decide
  have respelt : Respelt spelled plain :=
    (Respelt.shape map mapSimple mapPlain (some arguments) _ _).trans
      ((Respelt.element _ _ (.basic amount amountSimple amountSingle)).trans
        (.key _ _ (.basic code codeSimple codeSingle)))
  obtain ⟨kind, -⟩ := kinds "SortedMap" map mapSimple mapPlain (some arguments)
  obtain ⟨scalar, -⟩ := scalars "BigDecimal" amount amountSimple amountSingle
  exact ⟨by decide +kernel, by decide +kernel, by decide +kernel, mapSimple, mapPlain, kind,
    by decide +kernel, amountSimple, amountSingle, scalar, by decide +kernel, respelt,
    types spelled plain respelt "Shop.prices", by decide +kernel⟩

end MemberFact

end EntityQuery
