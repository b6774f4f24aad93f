/-!
Value types: the normalized shape of an attribute or property.

`ValueType.depth` counts nested levels, `ValueType.display` is the short text of a value type. The
members of a union are never merged or reordered.
-/

namespace ConstructSchema

/-- The kinds of values without inner structure. -/
inductive Primitive where
  | string
  | boolean
  | number
  | dateTime
  | json
  | any
  | undefined
  deriving DecidableEq, Repr, Inhabited

namespace Primitive

/-- The name of a primitive. -/
def name : Primitive → String
  | .string => "string"
  | .boolean => "boolean"
  | .number => "number"
  | .dateTime => "date-time"
  | .json => "json"
  | .any => "any"
  | .undefined => "undefined"

/-- All primitives. -/
def all : List Primitive :=
  [.string, .boolean, .number, .dateTime, .json, .any, .undefined]

/-- The primitive of a name. -/
def ofName? (s : String) : Option Primitive :=
  all.find? (·.name = s)

end Primitive

/-- A normalized value type. -/
inductive ValueType where
  | primitive (kind : Primitive)
  | listOf (element : ValueType)
  | mapOf (element : ValueType)
  /-- A type of the property type schema, by its qualified name. -/
  | named (name : String)
  | unionOf (members : List ValueType)
  deriving Repr, Inhabited

namespace ValueType

mutual

/-- The number of nested levels; a type without parts has one. -/
def depth : ValueType → Nat
  | .primitive _ | .named _ => 1
  | .listOf element | .mapOf element => 1 + element.depth
  | .unionOf members => 1 + maxDepth members

/-- The greatest depth of a list of types, and zero if it is empty. -/
def maxDepth : List ValueType → Nat
  | [] => 0
  | member :: rest => max member.depth (maxDepth rest)

end

mutual

/-- The short text of a value type. -/
def display : ValueType → String
  | .primitive kind => kind.name
  | .listOf element => "list<" ++ element.display ++ ">"
  | .mapOf element => "map<" ++ element.display ++ ">"
  | .named name => name
  | .unionOf members => "union<" ++ displayMembers members ++ ">"

/-- The texts of the members of a union, with bars between them. -/
def displayMembers : List ValueType → String
  | [] => ""
  | member :: rest => member.display ++ displayFurther rest

/-- The texts of further members, each behind a bar. -/
def displayFurther : List ValueType → String
  | [] => ""
  | member :: rest => " | " ++ member.display ++ displayFurther rest

end

end ValueType

end ConstructSchema
