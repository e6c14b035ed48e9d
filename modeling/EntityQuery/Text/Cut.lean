/-!
# Cutting texts at a character

Names in a schema are dotted, shape tokens carry generic arguments after a `<`, and a role is an
owner's name, a dot and a path, where the owner's name may itself hold dots. The cuts these need
are on lists of characters; `String` versions convert at the ends.
-/

namespace EntityQuery.Text

/-- The part before the first occurrence of `mark`, or everything if it does not occur. -/
def beforeFirst (mark : Char) (cs : List Char) : List Char :=
  cs.takeWhile (· != mark)

/-- The part after the last occurrence of `mark`, or everything if it does not occur. -/
def afterLast (mark : Char) (cs : List Char) : List Char :=
  (cs.reverse.takeWhile (· != mark)).reverse

/-- Every way to write the text as `left ++ mark :: right`, the earliest mark first. -/
def cuts (mark : Char) : List Char → List (List Char × List Char)
  | [] => []
  | c :: cs =>
    let later := (cuts mark cs).map fun cut => (c :: cut.1, cut.2)
    if c = mark then ([], cs) :: later else later

theorem cuts_sound {mark : Char} {cs left right : List Char}
    (cut : (left, right) ∈ cuts mark cs) : left ++ mark :: right = cs := by
  induction cs generalizing left with
  | nil => simp [cuts] at cut
  | cons c cs ih =>
    have later : ∀ {l}, (l, right) ∈ (cuts mark cs).map (fun cut => (c :: cut.1, cut.2)) →
        l ++ mark :: right = c :: cs := by
      intro l mem
      obtain ⟨⟨l', r'⟩, inner, eq⟩ := List.mem_map.mp mem
      obtain ⟨rfl, rfl⟩ := Prod.mk.inj eq
      simpa using ih inner
    by_cases h : c = mark
    · subst h
      simp only [cuts, ite_true, List.mem_cons, Prod.mk.injEq] at cut
      rcases cut with ⟨rfl, rfl⟩ | cut
      · rfl
      · exact later cut
    · simp only [cuts, h, ite_false] at cut
      exact later cut

/-- The dot-separated segments of a text; `""` has the one segment `""`. -/
def dotted (text : String) : List String :=
  (text.toList.splitOn '.').map String.ofList

/-- The last segment of a dotted name: `com.acme.Person` has the simple name `Person`. -/
def simpleName (name : String) : String :=
  String.ofList (afterLast '.' name.toList)

/-- The ways to read a role as an owner's name and a path, the longest owner first. -/
def ownerPathSplits (role : String) : List (String × String) :=
  (cuts '.' role.toList).reverse.map fun cut => (String.ofList cut.1, String.ofList cut.2)

/-- The byte position at which `part` first occurs in `text`. -/
def byteOffset? (part : List Char) : List Char → Option Nat
  | [] => if part.isEmpty then some 0 else none
  | c :: cs =>
    if part.isPrefixOf (c :: cs) then some 0
    else (byteOffset? part cs).map (c.utf8Size + ·)

end EntityQuery.Text
