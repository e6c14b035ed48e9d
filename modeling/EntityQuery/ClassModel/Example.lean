import EntityQuery.ClassModel.Basic

/-!
# A small class model

People with an embedded address, orders and phone numbers; employees, who are people with a salary
and a manager; orders; and a class that is no entity but has a constructor. It has a member of
every sort, and is what the examples of the library are about.
-/

namespace EntityQuery.ClassModel

/-- A company's people and orders. -/
def company : ClassModel := ofFacts [
  ClassFact.asEntity {
    name := "com.acme.Person"
    fields := .ofList [
      ("id", .basic "long"),
      ("name", .basic "String"),
      ("birthDate", .basic "java.time.LocalDate"),
      ("address", .embedded "com.acme.Address"),
      ("orders", .collection "List" (.association "Order") none),
      ("nicknames", .collection "SortedSet" (.basic "String") none),
      ("phones", .collection "Map" (.basic "String") (some (.basic "String")))] },
  ClassFact.asEntity {
    name := "com.acme.Employee"
    superclass := some "com.acme.Person"
    fields := .ofList [
      ("salary", .basic "java.math.BigDecimal"),
      ("manager", .association "Employee")] },
  ClassFact.asEntity {
    name := "com.acme.Order"
    fields := .ofList [
      ("id", .basic "long"),
      ("total", .basic "double"),
      ("status", .enumeration "com.acme.OrderStatus"),
      ("customer", .association "Person")] },
  { name := "com.acme.Address"
    fields := .ofList [
      ("street", .basic "String"),
      ("city", .basic "String"),
      ("zip", .basic "int")] },
  { name := "com.acme.OrderSummary"
    constructors := [[.scalar .string, .scalar .double]] }]

end EntityQuery.ClassModel
