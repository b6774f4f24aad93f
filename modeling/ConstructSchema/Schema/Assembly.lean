import ConstructSchema.Descriptor.Resolve
import ConstructSchema.Schema.Entry
import ConstructSchema.Spec.Database

/-!
Assembling the schemas of a database.

Type definitions and resources are taken in the order of their names in their tables, so of two
that make the same key the later one stays. The tag type is put in after all others. The first
failure ends the assembly; property types are assembled before resources.
-/

namespace ConstructSchema

/-- What the name of a class starts with. -/
def classPrefix : String := "Cfn"

/-- The tag type: a key and a value, both required texts. -/
def tagEntry (c : Conventions) : PropertyTypeEntry where
  bindings := c.coreBindings tagTypeName
  properties := Table.ofList <| ["Key", "Value"].map fun name =>
    (name, .make name (.primitive .string) true)

namespace Database

/-- A property as it stands in a resource of a type. -/
def assembleProperty (db : Database) (resourceType name : String) (p : RawProperty) :
    Except Failure PropertySpec :=
  (p.type.resolveRevisions db.definitionName? resourceType p.previousTypes).map fun valueType =>
    .make name valueType (p.required.getD false)

/-- An attribute as it stands in a resource of a type. -/
def assembleAttribute (db : Database) (resourceType name : String) (a : RawAttribute) :
    Except Failure AttributeSpec :=
  (a.type.resolveRevisions db.definitionName? resourceType a.previousTypes).map fun valueType =>
    ⟨name, valueType⟩

/-- The key and the entry of a type definition. -/
def assemblePropertyType (db : Database) (c : Conventions) (t : TypeDefinition) :
    Except Failure (String × PropertyTypeEntry) := do
  let parent ← db.parentOf t
  let service ← db.serviceOf parent
  let propertyName := t.name ++ "Property"
  let properties ← t.properties.traverse (db.assembleProperty parent.typeId)
  return (parent.typeId ++ "." ++ propertyName,
    { bindings := c.serviceBindings service (classPrefix ++ parent.name ++ "." ++ propertyName)
      properties })

/-- The key and the entry of a resource. -/
def assembleResource (db : Database) (c : Conventions) (r : Resource) :
    Except Failure (String × ResourceEntry) := do
  let service ← db.serviceOf r
  let attributes ← r.attributes.traverse (db.assembleAttribute r.typeId)
  let properties ← r.properties.traverse (db.assembleProperty r.typeId)
  return (r.typeId,
    { construct := c.serviceBindings service (classPrefix ++ r.name)
      attributes
      properties })

/-- The property types of a database. -/
def propertyTypeSchema (db : Database) (c : Conventions) : Except Failure PropertyTypeSchema := do
  let entries ← db.document.typeDefinitions.values.mapM (db.assemblePropertyType c)
  return (Table.ofList entries).insert tagTypeName (tagEntry c)

/-- The resources of a database. -/
def resourceSchema (db : Database) (c : Conventions) : Except Failure ResourceSchema := do
  let entries ← db.document.resources.values.mapM (db.assembleResource c)
  return Table.ofList entries

/-- Both schemas of a database. -/
def schemas (db : Database) (c : Conventions) : Except Failure Schemas := do
  let propertyTypes ← db.propertyTypeSchema c
  let resources ← db.resourceSchema c
  return { propertyTypes, resources }

end Database

end ConstructSchema
