import ConstructSchema.ValueType
import ConstructSchema.Json.Basic

/-!
The JSON form of value types.

A value type is an object with one member, whose name tells the form: `primitive`, `listOf`,
`mapOf`, `named` or `unionOf`. A primitive is its name, or an object whose only member has that
name and the value null.
-/

namespace ConstructSchema

/-- The JSON form of a primitive. -/
def Primitive.toJson (p : Primitive) : Json :=
  .string p.name

/-- The primitive of a JSON value. -/
def Primitive.ofJson : Json → Except Fault Primitive
  | .string name =>
    match ofName? name with
    | some p => .ok p
    | none => .error (.unknownVariant name)
  | .object [(name, value)] =>
    match ofName? name with
    | none => .error (.unknownVariant name)
    | some p =>
      match value with
      | .null => .ok p
      | _ => .error .malformed
  | _ => .error .malformed

namespace ValueType

/-- The names of the forms of a value type. -/
def formNames : List String :=
  ["primitive", "listOf", "mapOf", "named", "unionOf"]

mutual

/-- The JSON form of a value type. -/
def toJson : ValueType → Json
  | .primitive kind => .object [("primitive", kind.toJson)]
  | .listOf element => .object [("listOf", element.toJson)]
  | .mapOf element => .object [("mapOf", element.toJson)]
  | .named name => .object [("named", .string name)]
  | .unionOf members => .object [("unionOf", .array (toJsonList members))]

/-- The JSON forms of a list of value types. -/
def toJsonList : List ValueType → List Json
  | [] => []
  | member :: rest => member.toJson :: toJsonList rest

end

mutual

/-- The value type of a JSON value. -/
def ofJson : Json → Except Fault ValueType
  | .object [(name, value)] =>
    if name = "primitive" then (Primitive.ofJson value).map primitive
    else if name = "listOf" then (ofJson value).map listOf
    else if name = "mapOf" then (ofJson value).map mapOf
    else if name = "named" then value.text.map named
    else if name = "unionOf" then
      match value with
      | .array items => (ofJsonList items).map unionOf
      | _ => .error .malformed
    else .error (.unknownVariant name)
  | .string name =>
    .error (if name ∈ formNames then .malformed else .unknownVariant name)
  | _ => .error .malformed

/-- The value types of a list of JSON values. -/
def ofJsonList : List Json → Except Fault (List ValueType)
  | [] => .ok []
  | item :: rest => do
    let member ← ofJson item
    let members ← ofJsonList rest
    return member :: members

end

end ValueType

end ConstructSchema
