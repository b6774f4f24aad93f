/-!
Descriptors: value types as a specification gives them.

A descriptor is not checked when it is read. An array or map without an element and a union
without a list of types are kept as `bare`, and references as the id they hold.
-/

namespace ConstructSchema

/-- The kinds of descriptors that hold other descriptors. -/
inductive Container where
  | array
  | map
  | union
  deriving DecidableEq, Repr, Inhabited

/-- A value type as a specification gives it. -/
inductive Descriptor where
  | string
  | boolean
  | number
  | integer
  | dateTime
  | json
  /-- A type definition, by its id. -/
  | ref (id : String)
  | array (element : Descriptor)
  | map (element : Descriptor)
  /-- The well-known pair of a key and a value. -/
  | tag
  | union (types : List Descriptor)
  | null
  /-- A kind that has no name here. -/
  | unknown
  /-- A container whose contents were not given. -/
  | bare (container : Container)
  deriving Repr, Inhabited

namespace Descriptor

/-- The kind of a descriptor, in the order in which kinds are numbered. -/
inductive Kind where
  | string
  | boolean
  | number
  | integer
  | dateTime
  | json
  | ref
  | array
  | map
  | tag
  | union
  | null
  | unknown
  deriving DecidableEq, Repr, Inhabited

/-- The name of a kind. -/
def Kind.name : Kind → String
  | .string => "string"
  | .boolean => "boolean"
  | .number => "number"
  | .integer => "integer"
  | .dateTime => "date-time"
  | .json => "json"
  | .ref => "ref"
  | .array => "array"
  | .map => "map"
  | .tag => "tag"
  | .union => "union"
  | .null => "null"
  | .unknown => "unknown"

/-- All kinds in their order. -/
def Kind.all : List Kind :=
  [.string, .boolean, .number, .integer, .dateTime, .json, .ref, .array, .map, .tag, .union, .null,
    .unknown]

/-- The kind of a name; every name that is not one of a kind stands for an unknown kind. -/
def Kind.ofName (s : String) : Kind :=
  (Kind.all.find? (·.name = s)).getD .unknown

/-- The kind at a position, counted from zero; behind the last one all kinds are unknown. -/
def Kind.ofPosition (n : Nat) : Kind :=
  Kind.all[n]?.getD .unknown

/-- The kind of a container. -/
def Kind.ofContainer : Container → Kind
  | .array => .array
  | .map => .map
  | .union => .union

/-- The kind of a descriptor. -/
def kind : Descriptor → Kind
  | .string => .string
  | .boolean => .boolean
  | .number => .number
  | .integer => .integer
  | .dateTime => .dateTime
  | .json => .json
  | .ref _ => .ref
  | .array _ => .array
  | .map _ => .map
  | .tag => .tag
  | .union _ => .union
  | .null => .null
  | .unknown => .unknown
  | .bare container => .ofContainer container

end Descriptor

end ConstructSchema
