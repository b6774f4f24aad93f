import ConstructSchema.Failure
import ConstructSchema.ValueType

/-!
Resolving descriptors to value types.

A descriptor is resolved for the resource it stands in: references become names that start with
the type of that resource. The shape is kept node by node. The first defective node, in the order
parent, then children from left to right, gives the failure.
-/

namespace ConstructSchema

/-- The name of the well-known tag type. -/
def tagTypeName : String := "CfnTag"

namespace Descriptor

mutual

/-- The value type of a descriptor that stands in a resource of the type `resourceType`, where
`nameOf` gives the name of a type definition by its id. -/
def resolve (nameOf : String → Option String) (resourceType : String) :
    Descriptor → Except Failure ValueType
  | .string => .ok (.primitive .string)
  | .boolean => .ok (.primitive .boolean)
  | .number | .integer => .ok (.primitive .number)
  | .dateTime => .ok (.primitive .dateTime)
  | .json => .ok (.primitive .json)
  | .null => .ok (.primitive .undefined)
  | .unknown => .ok (.primitive .any)
  | .tag => .ok (.named tagTypeName)
  | .ref id =>
    match nameOf id with
    | some name => .ok (.named (resourceType ++ "." ++ name))
    | none => .error (.missingReference resourceType id)
  | .array element => (resolve nameOf resourceType element).map .listOf
  | .map element => (resolve nameOf resourceType element).map .mapOf
  | .union [] => .error (.malformedType resourceType .union)
  | .union types => (resolveAll nameOf resourceType types).map .unionOf
  | .bare container => .error (.malformedType resourceType container)

/-- The value types of a list of descriptors, up to the first failure. -/
def resolveAll (nameOf : String → Option String) (resourceType : String) :
    List Descriptor → Except Failure (List ValueType)
  | [] => .ok []
  | first :: rest =>
    match resolve nameOf resourceType first with
    | .error failure => .error failure
    | .ok member =>
      match resolveAll nameOf resourceType rest with
      | .error failure => .error failure
      | .ok members => .ok (member :: members)

end

/-- The value type of a descriptor with its earlier revisions: they are merged into one union, in
which the current descriptor comes first. -/
def resolveRevisions (nameOf : String → Option String) (resourceType : String)
    (current : Descriptor) : List Descriptor → Except Failure ValueType
  | [] => resolve nameOf resourceType current
  | previous => (resolveAll nameOf resourceType (current :: previous)).map .unionOf

end Descriptor

end ConstructSchema
