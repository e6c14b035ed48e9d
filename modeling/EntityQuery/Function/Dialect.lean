import EntityQuery.Function.Signature

/-!
# Dialects

A dialect says which functions a query language has built in, and is asked for them by name. What it
answers is its own affair: it may know a function under several names, or under one that is not the
function's. The standard dialect is given by a list of functions, each known under its own name, and
covers arithmetic, texts, points in time and the usual aggregates.
-/

namespace EntityQuery.Function

/-- The built-in functions of a query language. -/
structure Dialect where
  /-- The function that is known under a name, exactly as it is spelled. -/
  lookup : String → Option Signature

namespace Dialect

/-- The dialect with some functions, each under its own name. Of two with one name the first
counts. -/
def ofList (signatures : List Signature) : Dialect :=
  ⟨fun name => signatures.find? (·.name = name)⟩

section Standard

private def number : Option QueryType := some (.scalar .double)
private def whole : Option QueryType := some (.scalar .integer)
private def textual : Option QueryType := some (.scalar .string)
private def anything : Option QueryType := none
private def dependsOnArguments : Option QueryType := none

private def one (name : String) (type : Option QueryType) : Parameter := ⟨name, .required, type⟩
private def atMostOne (name : String) (type : Option QueryType) : Parameter :=
  ⟨name, .optional, type⟩
private def many (name : String) (type : Option QueryType) : Parameter := ⟨name, .variadic, type⟩

private def scalarFunction (name : String) (parameters : List Parameter)
    (result : Option QueryType) : Signature :=
  ⟨name, .function, parameters, result⟩

private def aggregate (name : String) (result : Option QueryType) : Signature :=
  ⟨name, .aggregate, [one "x" anything], result⟩

/-- The functions that every query language of the family has, in order. -/
def standardFunctions : List Signature := [
  scalarFunction "abs" [one "x" number] number,
  scalarFunction "sqrt" [one "x" number] number,
  scalarFunction "mod" [one "x" whole, one "y" whole] whole,
  scalarFunction "round" [one "x" number, atMostOne "decimals" whole] number,
  scalarFunction "floor" [one "x" number] number,
  scalarFunction "ceiling" [one "x" number] number,
  scalarFunction "exp" [one "x" number] number,
  scalarFunction "ln" [one "x" number] number,
  scalarFunction "power" [one "base" number, one "exponent" number] number,
  scalarFunction "sign" [one "x" number] whole,
  scalarFunction "lower" [one "s" textual] textual,
  scalarFunction "upper" [one "s" textual] textual,
  scalarFunction "length" [one "s" textual] whole,
  scalarFunction "locate" [one "pattern" textual, one "s" textual, atMostOne "start" whole] whole,
  scalarFunction "substring" [one "s" textual, one "start" whole, atMostOne "length" whole]
    textual,
  scalarFunction "trim" [one "s" textual] textual,
  scalarFunction "concat" [many "strings" textual] textual,
  scalarFunction "str" [one "x" anything] textual,
  scalarFunction "bit_length" [one "s" textual] whole,
  scalarFunction "current_date" [] (some (.scalar .date)),
  scalarFunction "current_time" [] (some (.scalar .time)),
  scalarFunction "current_timestamp" [] (some (.scalar .timestamp)),
  scalarFunction "second" [one "t" anything] whole,
  scalarFunction "minute" [one "t" anything] whole,
  scalarFunction "hour" [one "t" anything] whole,
  scalarFunction "day" [one "t" anything] whole,
  scalarFunction "month" [one "t" anything] whole,
  scalarFunction "year" [one "t" anything] whole,
  scalarFunction "size" [one "collection" anything] whole,
  scalarFunction "coalesce" [one "first" anything, many "rest" anything] dependsOnArguments,
  scalarFunction "nullif" [one "x" anything, one "y" anything] dependsOnArguments,
  scalarFunction "cast" [one "x" anything, one "as" anything] dependsOnArguments,
  aggregate "count" (some (.scalar .long)),
  aggregate "sum" dependsOnArguments,
  aggregate "avg" number,
  aggregate "min" dependsOnArguments,
  aggregate "max" dependsOnArguments]

/-- The dialect that has the standard functions and no others. -/
def standard : Dialect := ofList standardFunctions

/-- The names of the standard functions, in order. -/
def standardNames : List String := standardFunctions.map (·.name)

end Standard

end Dialect

end EntityQuery.Function
