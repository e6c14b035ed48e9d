import EntityQuery.Diagnostic.Basic
import EntityQuery.Function.Dialect
import EntityQuery.Settings
import EntityQuery.Text.Lowercase

/-!
# Function names in calls

A vocabulary is a dialect together with the settings that bear on function names. A name that the
dialect does not know is not an error: the call stands for a placeholder that takes any arguments
and yields a number, and the name is reported once unless it is whitelisted.

What a name resolves to depends on the vocabulary alone. The `Notices` only remember which names
have been reported, so that nothing is reported twice.
-/

namespace EntityQuery.Function

/-- What is known about function names. -/
structure Vocabulary where
  dialect : Dialect
  whitelist : List String
  caseSensitive : Bool

/-- What a function name stands for. -/
inductive Resolution
  /-- A function of the dialect. -/
  | builtin (signature : Signature)
  /-- An unknown function, under the name as it was spelled. -/
  | placeholder (name : String)
  deriving DecidableEq

namespace Resolution

/-- The name is one of the dialect. -/
def isBuiltin : Resolution → Bool
  | .builtin _ => true
  | .placeholder _ => false

/-- The name of the function. A built-in function has the name that the dialect gives it. -/
def name : Resolution → String
  | .builtin signature => signature.name
  | .placeholder name => name

/-- The signature of a built-in function. -/
def signature? : Resolution → Option Signature
  | .builtin signature => some signature
  | .placeholder _ => none

/-- The type of a call. A placeholder yields a floating-point number. -/
def resultType : Resolution → QueryType
  | .builtin signature => signature.result.getD .unknown
  | .placeholder _ => .scalar .float

/-- A call with `count` arguments is in order. -/
def accepts : Resolution → Nat → Bool
  | .builtin signature, count => signature.accepts count
  | .placeholder _, _ => true

end Resolution

namespace Vocabulary

/-- The vocabulary that a dialect and the settings make up. -/
def ofSettings (dialect : Dialect) (settings : Settings) : Vocabulary :=
  ⟨dialect, settings.whitelist, settings.caseSensitive⟩

/-- The built-in function meant by a name. Case is folded for this look-up alone. -/
def builtin? (v : Vocabulary) (name : String) : Option Signature :=
  v.dialect.lookup (if v.caseSensitive then name else Text.lowercase name)

/-- The name is whitelisted, spelled exactly so. -/
def isWhitelisted (v : Vocabulary) (name : String) : Bool :=
  v.whitelist.contains name

/-- What a name stands for. The empty name stands for nothing. -/
def resolve (v : Vocabulary) (name : String) : Option Resolution :=
  if name.isEmpty then none
  else match v.builtin? name with
    | some signature => some (.builtin signature)
    | none => some (.placeholder name)

/-- The name calls for a warning: it is not empty, not built in and not whitelisted. -/
def isUnknown (v : Vocabulary) (name : String) : Bool :=
  !name.isEmpty && (v.builtin? name).isNone && !v.isWhitelisted name

/-- The warning about an unknown name. -/
def unknownWarning (name : String) : Diagnostic where
  severity := .warning
  message := "`" ++ name ++ "` is not defined (add it to whitelist)"
  code := some "function::unknown"

/-- The error about a call of a built-in function, under the name as it was spelled. -/
def arityError (name : String) (signature : Signature) (count : Nat) (span : Span) :
    Diagnostic where
  severity := .error
  message := "function `" ++ name ++ "` expects " ++ signature.expected ++ s!", but got {count}"
  labels := [.primary span "incorrect number of arguments"]
  code := some "function::arity"

/-- The errors of a call with `count` arguments: one if the name is built in and the number of
arguments does not fit. -/
def checkCall (v : Vocabulary) (name : String) (count : Nat) (span : Span) : List Diagnostic :=
  match v.resolve name with
  | some (.builtin signature) =>
    if signature.accepts count then [] else [arityError name signature count span]
  | _ => []

end Vocabulary

/-- The unknown names reported so far, in the order of their first use. -/
structure Notices where
  warned : List String := []

namespace Notices

/-- Takes note that a name was used, and gives the warning that this calls for, if any. -/
def use (v : Vocabulary) (name : String) (notices : Notices) : Option Diagnostic × Notices :=
  if v.isUnknown name && !notices.warned.contains name then
    (some (Vocabulary.unknownWarning name), ⟨notices.warned ++ [name]⟩)
  else (none, notices)

/-- The reported names in the order of their code points. -/
def sorted (notices : Notices) : List String :=
  notices.warned.mergeSort

end Notices

end EntityQuery.Function
