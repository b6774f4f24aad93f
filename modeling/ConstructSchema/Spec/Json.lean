import ConstructSchema.Descriptor.Json
import ConstructSchema.Json.Text
import ConstructSchema.Spec.Document

/-!
The JSON form of specification documents and of their parts.

Every part is a record. Fields that may be left out have an empty text, an empty table, an empty
list or none in their place.
-/

namespace ConstructSchema

open Record (faultOf optional)

/-! ## Decoding -/

/-- The edge of a JSON value. -/
def Relation.ofJson (j : Json) : Except Fault Relation := do
  let r ← j.record ["from", "to"]
  let source := r.field "from" Json.text
  let target := r.field "to" Json.text
  Json.checkFields r [("from", faultOf source), ("to", faultOf target)]
  return {
    source := ← r.required "from" source
    target := ← r.required "to" target }

/-- The service of a JSON value. -/
def Service.ofJson (j : Json) : Except Fault Service := do
  let r ← j.record ["$id", "name", "shortName", "capitalized", "cloudFormationNamespace"]
  let id := r.field "$id" Json.text
  let name := r.field "name" Json.text
  let shortName := r.field "shortName" Json.text
  let capitalized := r.field "capitalized" Json.text
  let namespaceId := r.field "cloudFormationNamespace" Json.text
  Json.checkFields r [("$id", faultOf id), ("name", faultOf name), ("shortName", faultOf shortName),
    ("capitalized", faultOf capitalized), ("cloudFormationNamespace", faultOf namespaceId)]
  return {
    id := ← optional "" id
    name := ← r.required "name" name
    shortName := ← optional "" shortName
    capitalized := ← r.required "capitalized" capitalized
    namespaceId := ← r.required "cloudFormationNamespace" namespaceId }

/-- The property of a JSON value. -/
def RawProperty.ofJson (j : Json) : Except Fault RawProperty := do
  let r ← j.record ["type", "required", "previousTypes", "documentation"]
  let type := r.field "type" (Descriptor.ofJson false)
  let required := r.field "required" (Json.nullable Json.flag)
  let previousTypes := r.field "previousTypes" (Json.listOf (Descriptor.ofJson false))
  let documentation := r.field "documentation" (Json.nullable Json.text)
  Json.checkFields r [("type", faultOf type), ("required", faultOf required),
    ("previousTypes", faultOf previousTypes), ("documentation", faultOf documentation)]
  return {
    type := ← r.required "type" type
    required := ← optional none required
    previousTypes := ← optional [] previousTypes
    documentation := ← optional none documentation }

/-- The attribute of a JSON value. -/
def RawAttribute.ofJson (j : Json) : Except Fault RawAttribute := do
  let r ← j.record ["type", "previousTypes", "documentation"]
  let type := r.field "type" (Descriptor.ofJson false)
  let previousTypes := r.field "previousTypes" (Json.listOf (Descriptor.ofJson false))
  let documentation := r.field "documentation" (Json.nullable Json.text)
  Json.checkFields r [("type", faultOf type), ("previousTypes", faultOf previousTypes),
    ("documentation", faultOf documentation)]
  return {
    type := ← r.required "type" type
    previousTypes := ← optional [] previousTypes
    documentation := ← optional none documentation }

/-- The resource of a JSON value. -/
def Resource.ofJson (j : Json) : Except Fault Resource := do
  let r ← j.record ["$id", "name", "cloudFormationType", "attributes", "properties"]
  let id := r.field "$id" Json.text
  let name := r.field "name" Json.text
  let typeId := r.field "cloudFormationType" Json.text
  let attributes := r.field "attributes" (Json.tableOf RawAttribute.ofJson)
  let properties := r.field "properties" (Json.tableOf RawProperty.ofJson)
  Json.checkFields r [("$id", faultOf id), ("name", faultOf name),
    ("cloudFormationType", faultOf typeId), ("attributes", faultOf attributes),
    ("properties", faultOf properties)]
  return {
    id := ← optional "" id
    name := ← r.required "name" name
    typeId := ← r.required "cloudFormationType" typeId
    attributes := ← optional Table.empty attributes
    properties := ← optional Table.empty properties }

/-- The type definition of a JSON value. -/
def TypeDefinition.ofJson (j : Json) : Except Fault TypeDefinition := do
  let r ← j.record ["$id", "name", "properties"]
  let id := r.field "$id" Json.text
  let name := r.field "name" Json.text
  let properties := r.field "properties" (Json.tableOf RawProperty.ofJson)
  Json.checkFields r [("$id", faultOf id), ("name", faultOf name),
    ("properties", faultOf properties)]
  return {
    id := ← optional "" id
    name := ← r.required "name" name
    properties := ← optional Table.empty properties }

/-- The specification document of a JSON value. -/
def Document.ofJson (j : Json) : Except Fault Document := do
  let r ← j.record ["service", "resource", "typeDefinition", "hasResource", "usesType"]
  let services := r.field "service" (Json.tableOf Service.ofJson)
  let resources := r.field "resource" (Json.tableOf Resource.ofJson)
  let typeDefinitions := r.field "typeDefinition" (Json.tableOf TypeDefinition.ofJson)
  let hasResource := r.field "hasResource" (Json.listOf Relation.ofJson)
  let usesType := r.field "usesType" (Json.listOf Relation.ofJson)
  Json.checkFields r [("service", faultOf services), ("resource", faultOf resources),
    ("typeDefinition", faultOf typeDefinitions), ("hasResource", faultOf hasResource),
    ("usesType", faultOf usesType)]
  return {
    services := ← optional Table.empty services
    resources := ← optional Table.empty resources
    typeDefinitions := ← optional Table.empty typeDefinitions
    hasResource := ← optional [] hasResource
    usesType := ← optional [] usesType }

/-! ## Encoding -/

/-- The JSON form of an edge. -/
def Relation.toJson (r : Relation) : Json :=
  .object [("from", .string r.source), ("to", .string r.target)]

/-- The JSON form of a service. -/
def Service.toJson (s : Service) : Json :=
  .object [("$id", .string s.id), ("name", .string s.name), ("shortName", .string s.shortName),
    ("capitalized", .string s.capitalized), ("cloudFormationNamespace", .string s.namespaceId)]

/-- The JSON form of a property. -/
def RawProperty.toJson (p : RawProperty) : Json :=
  .object [("type", p.type.toJson), ("required", .ofOption .bool p.required),
    ("previousTypes", .array (Descriptor.toJsonList p.previousTypes)),
    ("documentation", .ofOption .string p.documentation)]

/-- The JSON form of an attribute. -/
def RawAttribute.toJson (a : RawAttribute) : Json :=
  .object [("type", a.type.toJson),
    ("previousTypes", .array (Descriptor.toJsonList a.previousTypes)),
    ("documentation", .ofOption .string a.documentation)]

/-- The JSON form of a resource. -/
def Resource.toJson (r : Resource) : Json :=
  .object [("$id", .string r.id), ("name", .string r.name),
    ("cloudFormationType", .string r.typeId),
    ("attributes", .ofTable RawAttribute.toJson r.attributes),
    ("properties", .ofTable RawProperty.toJson r.properties)]

/-- The JSON form of a type definition. -/
def TypeDefinition.toJson (t : TypeDefinition) : Json :=
  .object [("$id", .string t.id), ("name", .string t.name),
    ("properties", .ofTable RawProperty.toJson t.properties)]

/-- The JSON form of a specification document. -/
def Document.toJson (d : Document) : Json :=
  .object [("service", .ofTable Service.toJson d.services),
    ("resource", .ofTable Resource.toJson d.resources),
    ("typeDefinition", .ofTable TypeDefinition.toJson d.typeDefinitions),
    ("hasResource", .array (d.hasResource.map Relation.toJson)),
    ("usesType", .array (d.usesType.map Relation.toJson))]

end ConstructSchema
