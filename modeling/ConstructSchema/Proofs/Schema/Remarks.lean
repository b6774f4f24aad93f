import ConstructSchema.Proofs.Schema.Agreement

/-!
What a specification says in passing.

The documentation of properties and attributes, the short name of a service and that a property is
not required are remarks: no schema depends on them. `Document.withoutRemarks` leaves them out, and
a database is assembled as it is without them, entity by entity (`schemas_withoutRemarks`). Two
databases that differ in remarks only are therefore assembled alike.
-/

namespace ConstructSchema

/-! ## Leaving remarks out -/

/-- The property without its documentation, where it says that it is required or nothing. -/
def RawProperty.withoutRemarks (p : RawProperty) : RawProperty :=
  { p with
    required := if p.required = some true then some true else none
    documentation := none }

/-- The attribute without its documentation. -/
def RawAttribute.withoutRemarks (a : RawAttribute) : RawAttribute :=
  { a with documentation := none }

/-- The service without its short name. -/
def Service.withoutRemarks (s : Service) : Service :=
  { s with shortName := "" }

/-- The resource without the remarks in its attributes and properties. -/
def Resource.withoutRemarks (r : Resource) : Resource :=
  { r with
    attributes := r.attributes.mapWithName fun _ a => a.withoutRemarks
    properties := r.properties.mapWithName fun _ p => p.withoutRemarks }

/-- The type definition without the remarks in its properties. -/
def TypeDefinition.withoutRemarks (t : TypeDefinition) : TypeDefinition :=
  { t with properties := t.properties.mapWithName fun _ p => p.withoutRemarks }

/-- The document without the remarks of its entities. -/
def Document.withoutRemarks (d : Document) : Document :=
  { d with
    services := d.services.mapWithName fun _ s => s.withoutRemarks
    resources := d.resources.mapWithName fun _ r => r.withoutRemarks
    typeDefinitions := d.typeDefinitions.mapWithName fun _ t => t.withoutRemarks }

namespace Database

/-- The database of the document without remarks. -/
def withoutRemarks (db : Database) : Database where
  document := db.document.withoutRemarks

variable (db : Database)

/-! ## Lookups -/

/-- A lookup finds what was made of the value that it found before. -/
theorem theOnly_map {α β : Type} (f : α → β) (lookup : String → Option α) (names : List String) :
    theOnly (fun name => (lookup name).map f) names = (theOnly lookup names).map f := by
  rw [theOnly, theOnly, ← List.map_filterMap]
  cases names.filterMap lookup with
  | nil => rfl
  | cons value rest => cases rest <;> simp [Except.map]

theorem definitionName?_withoutRemarks :
    db.withoutRemarks.definitionName? = db.definitionName? := by
  funext id
  simp only [definitionName?, withoutRemarks, Document.withoutRemarks, Table.get?_mapWithName]
  cases db.document.typeDefinitions.get? id <;> rfl

theorem serviceOf_withoutRemarks (r : Resource) :
    db.withoutRemarks.serviceOf r.withoutRemarks =
      (db.serviceOf r).map Service.withoutRemarks := by
  have hlookup : db.withoutRemarks.document.services.get? =
      fun name => (db.document.services.get? name).map Service.withoutRemarks :=
    funext (Table.get?_mapWithName (fun _ s => Service.withoutRemarks s) _)
  have hsources :
      db.withoutRemarks.owners.sources r.withoutRemarks.id = db.owners.sources r.id := by
    rw [db.owners_eq]
    rfl
  rw [serviceOf, serviceOf, hlookup, hsources, theOnly_map]
  cases theOnly db.document.services.get? (db.owners.sources r.id) <;> rfl

theorem parentOf_withoutRemarks (t : TypeDefinition) :
    db.withoutRemarks.parentOf t.withoutRemarks =
      (db.parentOf t).map Resource.withoutRemarks := by
  have hlookup : db.withoutRemarks.document.resources.get? =
      fun name => (db.document.resources.get? name).map Resource.withoutRemarks :=
    funext (Table.get?_mapWithName (fun _ r => Resource.withoutRemarks r) _)
  have hsources : db.withoutRemarks.users.sources t.withoutRemarks.id = db.users.sources t.id := by
    rw [db.users_eq]
    rfl
  rw [parentOf, parentOf, hlookup, hsources, theOnly_map]
  cases theOnly db.document.resources.get? (db.users.sources t.id) <;> rfl

/-! ## Entities -/

theorem assembleProperty_withoutRemarks (resourceType name : String) (p : RawProperty) :
    db.withoutRemarks.assembleProperty resourceType name p.withoutRemarks =
      db.assembleProperty resourceType name p := by
  have hrequired : p.withoutRemarks.required.getD false = p.required.getD false := by
    rw [RawProperty.withoutRemarks]
    rcases p.required with _ | _ | _ <;> rfl
  rw [assembleProperty, assembleProperty, definitionName?_withoutRemarks, hrequired]
  rfl

theorem traverse_properties_withoutRemarks (resourceType : String)
    (properties : Table RawProperty) :
    (properties.mapWithName fun _ p => p.withoutRemarks).traverse
        (db.withoutRemarks.assembleProperty resourceType) =
      properties.traverse (db.assembleProperty resourceType) := by
  simp only [Table.traverse_mapWithName, assembleProperty_withoutRemarks]

theorem assembleAttribute_withoutRemarks (resourceType name : String) (a : RawAttribute) :
    db.withoutRemarks.assembleAttribute resourceType name a.withoutRemarks =
      db.assembleAttribute resourceType name a := by
  rw [assembleAttribute, assembleAttribute, definitionName?_withoutRemarks]
  rfl

theorem assembleResource_withoutRemarks (c : Conventions) (r : Resource) :
    db.withoutRemarks.assembleResource c r.withoutRemarks = db.assembleResource c r := by
  have hattributes : r.withoutRemarks.attributes.traverse
      (db.withoutRemarks.assembleAttribute r.typeId) =
        r.attributes.traverse (db.assembleAttribute r.typeId) := by
    simp only [Resource.withoutRemarks, Table.traverse_mapWithName,
      assembleAttribute_withoutRemarks]
  have hproperties : r.withoutRemarks.properties.traverse
      (db.withoutRemarks.assembleProperty r.typeId) =
        r.properties.traverse (db.assembleProperty r.typeId) :=
    db.traverse_properties_withoutRemarks r.typeId r.properties
  have htype : r.withoutRemarks.typeId = r.typeId := rfl
  rw [assembleResource, assembleResource, htype, serviceOf_withoutRemarks, hattributes, hproperties]
  cases db.serviceOf r <;> rfl

theorem assemblePropertyType_withoutRemarks (c : Conventions) (t : TypeDefinition) :
    db.withoutRemarks.assemblePropertyType c t.withoutRemarks = db.assemblePropertyType c t := by
  rw [assemblePropertyType, assemblePropertyType, parentOf_withoutRemarks]
  cases db.parentOf t with
  | error failure => rfl
  | ok parent =>
    have hproperties : t.withoutRemarks.properties.traverse
        (db.withoutRemarks.assembleProperty parent.withoutRemarks.typeId) =
          t.properties.traverse (db.assembleProperty parent.typeId) :=
      db.traverse_properties_withoutRemarks parent.typeId t.properties
    simp only [Except.map, ok_bind, serviceOf_withoutRemarks, hproperties]
    cases db.serviceOf parent <;> rfl

/-- **Remarks do not count.** A database has the outcome of the one without remarks. -/
theorem schemas_withoutRemarks (c : Conventions) : db.withoutRemarks.schemas c = db.schemas c := by
  have htypes : db.withoutRemarks.document.typeDefinitions.values =
      db.document.typeDefinitions.values.map TypeDefinition.withoutRemarks :=
    Table.values_mapWithName _ _
  have hresources : db.withoutRemarks.document.resources.values =
      db.document.resources.values.map Resource.withoutRemarks :=
    Table.values_mapWithName _ _
  rw [schemas, schemas, propertyTypeSchema, propertyTypeSchema, resourceSchema, resourceSchema,
    htypes, hresources, List.mapM_map, List.mapM_map]
  simp only [Function.comp_def, assemblePropertyType_withoutRemarks,
    assembleResource_withoutRemarks]

end Database

end ConstructSchema
