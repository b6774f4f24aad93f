import ConstructSchema.Naming.Bindings
import ConstructSchema.ValueType

/-!
The two schemas: property types by their qualified names, and resources by their type ids.
-/

namespace ConstructSchema

/-- A property of a resource or property type. -/
structure PropertySpec where
  name : String
  valueType : ValueType
  /-- Assembled properties say that they are required or nothing. -/
  required : Option Bool
  deriving Repr, Inhabited

namespace PropertySpec

/-- A property that says it is required, or nothing if it is not. -/
def make (name : String) (valueType : ValueType) (required : Bool) : PropertySpec :=
  ⟨name, valueType, if required then some true else none⟩

/-- Whether a property is required. -/
def isRequired (p : PropertySpec) : Bool :=
  p.required.getD false

end PropertySpec

/-- An attribute of a resource. -/
structure AttributeSpec where
  name : String
  valueType : ValueType
  deriving Repr, Inhabited

/-- A property type. -/
structure PropertyTypeEntry where
  bindings : Bindings
  properties : Table PropertySpec
  deriving Inhabited

/-- A resource. -/
structure ResourceEntry where
  construct : Bindings
  attributes : Table AttributeSpec
  properties : Table PropertySpec
  deriving Inhabited

/-- Property types by their qualified names. -/
abbrev PropertyTypeSchema := Table PropertyTypeEntry

/-- Resources by their type ids. -/
abbrev ResourceSchema := Table ResourceEntry

/-- The outcome of one generation. -/
structure Schemas where
  propertyTypes : PropertyTypeSchema
  resources : ResourceSchema
  deriving Inhabited

end ConstructSchema
