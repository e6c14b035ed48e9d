import EntityQuery.QueryType

/-!
# Settings

What a session is told before it starts: which unknown functions are accepted in silence, how
subclasses are found, what identifies an entity, and whether function names distinguish case.
-/

namespace EntityQuery

/-- When the subclasses of a descriptor are determined: at each look-up, over everything known by
then, or as edges recorded whenever a descriptor is created. -/
inductive SubclassPolicy
  | onDemand | atCreation
  deriving DecidableEq

/-- The property that identifies every entity, and its type. -/
structure Identifier where
  property : String
  type : QueryType
  deriving DecidableEq

/-- The settings of a session. -/
structure Settings where
  whitelist : List String := []
  subclasses : SubclassPolicy := .onDemand
  identifier : Identifier := ⟨"id", .scalar .integer⟩
  caseSensitive : Bool := false
  deriving DecidableEq

namespace Settings

/-- A comma or white space ends a name in a whitelist option. -/
def isSeparator (c : Char) : Bool := c == ',' || Text.isBlank c

/-- The names in a whitelist option: what is left between separators. -/
def parseWhitelist (option : String) : List String :=
  ((option.toList.splitOnP isSeparator).filter (!·.isEmpty)).map String.ofList

/-- The name is whitelisted, spelled exactly so. -/
def isWhitelisted (settings : Settings) (name : String) : Bool :=
  settings.whitelist.contains name

end Settings

end EntityQuery
