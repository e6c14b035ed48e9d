import EntityQuery.Text.Blank
import EntityQuery.Text.Cut

/-!
# Scalar types

The types of single values that a query language knows by itself: numbers, texts, points in time
and the like. A scalar is declared under one of several class names (`int`, `Integer`,
`java.lang.Integer`), which `ofDeclared?` reads; it has one name of its own, which `name` prints.

Scalars fall into *families*. Two scalars may be compared with each other exactly when they are
of one family, so comparability of scalars is an equivalence by construction.
-/

namespace EntityQuery

/-- A scalar type of the query language. -/
inductive Scalar
  | boolean | byte | short | integer | long | float | double | bigInteger | bigDecimal
  | character | string
  | date | time | timestamp | instant
  | binary | uuid
  deriving DecidableEq

namespace Scalar

/-- Every scalar, in the order of declaration. -/
def all : List Scalar :=
  [.boolean, .byte, .short, .integer, .long, .float, .double, .bigInteger, .bigDecimal,
    .character, .string, .date, .time, .timestamp, .instant, .binary, .uuid]

/-- The name under which a scalar appears in messages. -/
def name : Scalar → String
  | .boolean => "Boolean"
  | .byte => "Byte"
  | .short => "Short"
  | .integer => "Integer"
  | .long => "Long"
  | .float => "Float"
  | .double => "Double"
  | .bigInteger => "BigInteger"
  | .bigDecimal => "BigDecimal"
  | .character => "Character"
  | .string => "String"
  | .date => "Date"
  | .time => "Time"
  | .timestamp => "Timestamp"
  | .instant => "Instant"
  | .binary => "Binary"
  | .uuid => "Uuid"

/-- The groups of scalars whose values may be compared with each other. -/
inductive Family
  | truth | number | text | calendar | timeOfDay | instant | bytes | identifier
  deriving DecidableEq

/-- The family of a scalar. A date compares with a timestamp, but neither with a time of day or
an instant. -/
def family : Scalar → Family
  | .boolean => .truth
  | .byte | .short | .integer | .long | .float | .double | .bigInteger | .bigDecimal => .number
  | .character | .string => .text
  | .date | .timestamp => .calendar
  | .time => .timeOfDay
  | .instant => .instant
  | .binary => .bytes
  | .uuid => .identifier

/-- The numbers are the scalars of the number family. -/
def isNumeric (s : Scalar) : Bool := s.family = .number

/-- The simple class names under which scalars are declared. Array types are listed with their
brackets: an array of bytes is one binary value, an array of characters one text. -/
def declaredNames : List (String × Scalar) := [
  ("boolean", .boolean), ("Boolean", .boolean),
  ("byte", .byte), ("Byte", .byte),
  ("short", .short), ("Short", .short),
  ("int", .integer), ("Integer", .integer),
  ("long", .long), ("Long", .long),
  ("float", .float), ("Float", .float),
  ("double", .double), ("Double", .double),
  ("char", .character), ("Character", .character),
  ("String", .string), ("char[]", .string), ("Character[]", .string), ("Clob", .string),
  ("BigInteger", .bigInteger), ("BigDecimal", .bigDecimal),
  ("Date", .date), ("LocalDate", .date),
  ("Time", .time), ("LocalTime", .time), ("OffsetTime", .time),
  ("Timestamp", .timestamp), ("LocalDateTime", .timestamp), ("OffsetDateTime", .timestamp),
  ("ZonedDateTime", .timestamp), ("Calendar", .timestamp),
  ("Instant", .instant),
  ("byte[]", .binary), ("Byte[]", .binary), ("Blob", .binary),
  ("UUID", .uuid), ("Uuid", .uuid)]

/-- What remains of a declared class name once white space and package are gone. The package of
an array type stays, so a qualified array name is never the name of a scalar. -/
def declaredKey (name : String) : String :=
  let trimmed := Text.trim name.toList
  if "[]".toList.isSuffixOf trimmed then String.ofList trimmed
  else String.ofList (Text.afterLast '.' trimmed)

/-- The scalar declared under a class name, which may be simple or qualified. -/
def ofDeclared? (name : String) : Option Scalar :=
  declaredNames.lookup (declaredKey name)

end Scalar

end EntityQuery
