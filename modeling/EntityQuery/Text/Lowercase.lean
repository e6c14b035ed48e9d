import EntityQuery.Text.CaseData

/-!
# Lowercasing

The full Unicode lowercasing of a text. It is character by character but for two rules: a capital
I with a dot above becomes two characters, and a capital sigma becomes the final form `ς` exactly
when it ends a word. A sigma ends a word when the nearest character before it that is not case
ignorable is cased, and the nearest such character after it is not.
-/

namespace EntityQuery.Text

/-- The simple lowercase form of a character. -/
def lowerChar (c : Char) : Char :=
  match lowercaseRuns.findSome? (·.lower? c.toNat) with
  | some n => Char.ofNat n
  | none => c

/-- The first character of `cs` that is not case ignorable is cased. -/
def meetsCased (cs : List Char) : Bool :=
  match cs.dropWhile caseIgnorable.contains with
  | [] => false
  | c :: _ => cased.contains c

/-- The lowercase form of a capital sigma between `before`, nearest character first, and
`after`. -/
def lowerSigma (before after : List Char) : Char :=
  if meetsCased before && !meetsCased after then 'ς' else 'σ'

/-- Lowercases the text `after` that follows `before`, which is held in reverse. -/
def lowerFrom (before : List Char) : List Char → List Char
  | [] => []
  | c :: after =>
    let lowered :=
      if c = 'Σ' then [lowerSigma before after]
      else if c = 'İ' then ['i', '\u0307']
      else [lowerChar c]
    lowered ++ lowerFrom (c :: before) after

/-- The text in lowercase. -/
def lowercase (text : String) : String :=
  String.ofList (lowerFrom [] text.toList)

end EntityQuery.Text
