import ConstructSchema.Json.Print
import ConstructSchema.Json.Text
import ConstructSchema.Naming.Json
import ConstructSchema.Schema.Entry
import ConstructSchema.ValueType.Json

/-!
The JSON form of the schemas, and the texts written to their files.

A property that says nothing about being required has no member `required`.
-/

namespace ConstructSchema

open Record (faultOf optional)

/-! ## Encoding -/

/-- The JSON form of a property. -/
def PropertySpec.toJson (p : PropertySpec) : Json :=
  .object ([("name", .string p.name), ("valueType", p.valueType.toJson)] ++
    match p.required with
    | some required => [("required", .bool required)]
    | none => [])

/-- The JSON form of an attribute. -/
def AttributeSpec.toJson (a : AttributeSpec) : Json :=
  .object [("name", .string a.name), ("valueType", a.valueType.toJson)]

/-- The JSON form of a property type. -/
def PropertyTypeEntry.toJson (e : PropertyTypeEntry) : Json :=
  .object [("name", e.bindings.toJson), ("properties", .ofTable PropertySpec.toJson e.properties)]

/-- The JSON form of a resource. -/
def ResourceEntry.toJson (e : ResourceEntry) : Json :=
  .object [("construct", e.construct.toJson),
    ("attributes", .ofTable AttributeSpec.toJson e.attributes),
    ("properties", .ofTable PropertySpec.toJson e.properties)]

/-- The JSON form of a property type schema. -/
def PropertyTypeSchema.toJson (s : PropertyTypeSchema) : Json :=
  .ofTable PropertyTypeEntry.toJson s

/-- The JSON form of a resource schema. -/
def ResourceSchema.toJson (s : ResourceSchema) : Json :=
  .ofTable ResourceEntry.toJson s

/-- The text of a property type schema. -/
def PropertyTypeSchema.render (s : PropertyTypeSchema) : String :=
  (PropertyTypeSchema.toJson s).pretty

/-- The text of a resource schema. -/
def ResourceSchema.render (s : ResourceSchema) : String :=
  (ResourceSchema.toJson s).pretty

/-! ## Decoding -/

/-- The property of a JSON value. -/
def PropertySpec.ofJson (j : Json) : Except Fault PropertySpec := do
  let r ← j.record ["name", "valueType", "required"]
  let name := r.field "name" Json.text
  let valueType := r.field "valueType" ValueType.ofJson
  let required := r.field "required" (Json.nullable Json.flag)
  Json.checkFields r [("name", faultOf name), ("valueType", faultOf valueType),
    ("required", faultOf required)]
  return {
    name := ← r.required "name" name
    valueType := ← r.required "valueType" valueType
    required := ← optional none required }

/-- The attribute of a JSON value. -/
def AttributeSpec.ofJson (j : Json) : Except Fault AttributeSpec := do
  let r ← j.record ["name", "valueType"]
  let name := r.field "name" Json.text
  let valueType := r.field "valueType" ValueType.ofJson
  Json.checkFields r [("name", faultOf name), ("valueType", faultOf valueType)]
  return {
    name := ← r.required "name" name
    valueType := ← r.required "valueType" valueType }

/-- The property type of a JSON value. -/
def PropertyTypeEntry.ofJson (j : Json) : Except Fault PropertyTypeEntry := do
  let r ← j.record ["name", "properties"]
  let bindings := r.field "name" Bindings.ofJson
  let properties := r.field "properties" (Json.tableOf PropertySpec.ofJson)
  Json.checkFields r [("name", faultOf bindings), ("properties", faultOf properties)]
  return {
    bindings := ← r.required "name" bindings
    properties := ← r.required "properties" properties }

/-- The resource of a JSON value. -/
def ResourceEntry.ofJson (j : Json) : Except Fault ResourceEntry := do
  let r ← j.record ["construct", "attributes", "properties"]
  let construct := r.field "construct" Bindings.ofJson
  let attributes := r.field "attributes" (Json.tableOf AttributeSpec.ofJson)
  let properties := r.field "properties" (Json.tableOf PropertySpec.ofJson)
  Json.checkFields r [("construct", faultOf construct), ("attributes", faultOf attributes),
    ("properties", faultOf properties)]
  return {
    construct := ← r.required "construct" construct
    attributes := ← r.required "attributes" attributes
    properties := ← r.required "properties" properties }

/-- The property type schema of a JSON value. -/
def PropertyTypeSchema.ofJson (j : Json) : Except Fault PropertyTypeSchema :=
  j.tableOf PropertyTypeEntry.ofJson

/-- The resource schema of a JSON value. -/
def ResourceSchema.ofJson (j : Json) : Except Fault ResourceSchema :=
  j.tableOf ResourceEntry.ofJson

/-- The property type schema that a text holds. -/
def PropertyTypeSchema.read (text : String) : Except Fault PropertyTypeSchema :=
  Json.decodeText PropertyTypeSchema.ofJson text

/-- The resource schema that a text holds. -/
def ResourceSchema.read (text : String) : Except Fault ResourceSchema :=
  Json.decodeText ResourceSchema.ofJson text

end ConstructSchema
