import EntityQuery.QueryType

/-!
# Function signatures

A signature lists the parameters of a function. Each takes one argument, at most one, or any
number, and the numbers of arguments that a call may have follow from that: at least one for each
required parameter, and no upper bound once a parameter is variadic.
-/

namespace EntityQuery.Function

/-- How many arguments a parameter takes. -/
inductive Mode
  /-- Exactly one. -/
  | required
  /-- At most one. -/
  | optional
  /-- Any number, none included. -/
  | variadic
  deriving DecidableEq

/-- A parameter. No type means that any type is accepted. -/
structure Parameter where
  name : String
  mode : Mode
  type : Option QueryType
  deriving DecidableEq

/-- Scalar functions work on one row, aggregates on a group of rows. -/
inductive Class
  | function | aggregate
  deriving DecidableEq

/-- A function that a dialect knows. No result type means that it depends on the arguments. -/
structure Signature where
  name : String
  cls : Class
  parameters : List Parameter
  result : Option QueryType
  deriving DecidableEq

namespace Signature

/-- The least number of arguments. -/
def minArity (s : Signature) : Nat :=
  s.parameters.countP (·.mode = .required)

/-- The greatest number of arguments, if there is one. -/
def maxArity? (s : Signature) : Option Nat :=
  if s.parameters.any (·.mode = .variadic) then none else some s.parameters.length

/-- A call with `count` arguments fits the signature. -/
def accepts (s : Signature) (count : Nat) : Bool :=
  s.minArity ≤ count && s.maxArity?.all (count ≤ ·)

/-- The numbers of arguments that fit, in words. -/
def expected (s : Signature) : String :=
  match s.maxArity? with
  | none => s!"at least {s.minArity} arguments"
  | some most =>
    if most = s.minArity then s!"{s.minArity} arguments"
    else s!"between {s.minArity} and {most} arguments"

end Signature

end EntityQuery.Function
