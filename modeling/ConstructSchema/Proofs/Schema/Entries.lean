import ConstructSchema.Proofs.Spec.Lookups
import ConstructSchema.Schema.Assembly

/-!
What the assembled schemas hold.

An entry is described by what it is made of: `ResourceEntryOf` and `PropertyTypeEntryOf` say of
which service its bindings are and, name by name, which type each of its attributes and properties
has. The assembly of one entity gives exactly the entry so described
(`assembleResource_eq_ok_iff`, `assemblePropertyType_eq_ok_iff`). `Assembled` then describes both
schemas as maps: which names they have, and of which entity the entry under a name is made, namely
of the last one in its table that has this name. The tag type stands beside the entries of type
definitions: its name has no dot, so it is none of theirs (`Derives.ne_tagTypeName`).
-/

namespace ConstructSchema

namespace Database

/-! ## One entry -/

/-- A property has its own name, the type that its descriptors resolve to, and the mark of a
required property exactly if the raw one is required. -/
def PropertyOf (db : Database) (resourceType name : String) (p : RawProperty)
    (spec : PropertySpec) : Prop :=
  ∃ valueType,
    p.type.resolveRevisions db.definitionName? resourceType p.previousTypes = .ok valueType ∧
      spec = ⟨name, valueType, if p.required = some true then some true else none⟩

/-- An attribute has its own name and the type that its descriptors resolve to. -/
def AttributeOf (db : Database) (resourceType name : String) (a : RawAttribute)
    (spec : AttributeSpec) : Prop :=
  ∃ valueType,
    a.type.resolveRevisions db.definitionName? resourceType a.previousTypes = .ok valueType ∧
      spec = ⟨name, valueType⟩

/-- The entry of a resource. -/
structure ResourceEntryOf (db : Database) (c : Conventions) (r : Resource)
    (entry : ResourceEntry) : Prop where
  construct : ∃ service, db.serviceOf r = .ok service ∧
    entry.construct = c.serviceBindings service (classPrefix ++ r.name)
  attributes : r.attributes.Pointwise (db.AttributeOf r.typeId) entry.attributes
  properties : r.properties.Pointwise (db.PropertyOf r.typeId) entry.properties

/-- The entry of a type definition: its class belongs to the parent, and its types are named for the
parent. -/
def PropertyTypeEntryOf (db : Database) (c : Conventions) (t : TypeDefinition)
    (entry : PropertyTypeEntry) : Prop :=
  ∃ parent, db.parentOf t = .ok parent ∧
    (∃ service, db.serviceOf parent = .ok service ∧
      entry.bindings =
        c.serviceBindings service (classPrefix ++ parent.name ++ "." ++ t.name ++ "Property")) ∧
    t.properties.Pointwise (db.PropertyOf parent.typeId) entry.properties

/-- The name under which the entry of a type definition stands. -/
def Derives (db : Database) (t : TypeDefinition) (k : String) : Prop :=
  ∃ parent, db.parentOf t = .ok parent ∧ k = parent.typeId ++ "." ++ t.name ++ "Property"

/-- A name made for a type definition holds a dot, and that of the tag type does not. -/
theorem Derives.ne_tagTypeName {db : Database} {t : TypeDefinition} {k : String}
    (h : db.Derives t k) : k ≠ tagTypeName := by
  obtain ⟨parent, _, rfl⟩ := h
  intro heq
  have hdot : '.' ∈ (parent.typeId ++ "." ++ t.name ++ "Property").toList := by
    simp only [String.toList_append, List.mem_append]
    exact Or.inl (Or.inl (Or.inr (by decide)))
  rw [heq] at hdot
  revert hdot
  decide

variable (db : Database)

theorem assembleProperty_eq_ok_iff {resourceType name : String} {p : RawProperty}
    {spec : PropertySpec} :
    db.assembleProperty resourceType name p = .ok spec ↔ db.PropertyOf resourceType name p spec := by
  have hrequired : ∀ valueType, PropertySpec.make name valueType (p.required.getD false) =
      ⟨name, valueType, if p.required = some true then some true else none⟩ := by
    intro valueType
    rcases p.required with _ | _ | _ <;> rfl
  rw [assembleProperty, map_eq_ok_iff, PropertyOf]
  simp only [hrequired, eq_comm]

theorem assembleAttribute_eq_ok_iff {resourceType name : String} {a : RawAttribute}
    {spec : AttributeSpec} :
    db.assembleAttribute resourceType name a = .ok spec ↔
      db.AttributeOf resourceType name a spec := by
  rw [assembleAttribute, map_eq_ok_iff, AttributeOf]
  simp only [eq_comm]

theorem traverse_properties_eq_ok_iff {resourceType : String} {raw : Table RawProperty}
    {out : Table PropertySpec} :
    raw.traverse (db.assembleProperty resourceType) = .ok out ↔
      raw.Pointwise (db.PropertyOf resourceType) out := by
  simp only [Table.traverse_eq_ok_iff_pointwise, assembleProperty_eq_ok_iff]

theorem traverse_attributes_eq_ok_iff {resourceType : String} {raw : Table RawAttribute}
    {out : Table AttributeSpec} :
    raw.traverse (db.assembleAttribute resourceType) = .ok out ↔
      raw.Pointwise (db.AttributeOf resourceType) out := by
  simp only [Table.traverse_eq_ok_iff_pointwise, assembleAttribute_eq_ok_iff]

/-- The assembly of a resource gives exactly its entry, under its type id. -/
theorem assembleResource_eq_ok_iff {c : Conventions} {r : Resource} {k : String}
    {entry : ResourceEntry} :
    db.assembleResource c r = .ok (k, entry) ↔ r.typeId = k ∧ db.ResourceEntryOf c r entry := by
  simp only [assembleResource, bind_eq_ok_iff, pure_eq_ok_iff, Prod.mk.injEq,
    traverse_attributes_eq_ok_iff, traverse_properties_eq_ok_iff]
  constructor
  · rintro ⟨service, hservice, attributes, hattributes, properties, hproperties, rfl, rfl⟩
    exact ⟨rfl, ⟨service, hservice, rfl⟩, hattributes, hproperties⟩
  · rintro ⟨rfl, ⟨service, hservice, hconstruct⟩, hattributes, hproperties⟩
    refine ⟨service, hservice, entry.attributes, hattributes, entry.properties, hproperties, rfl, ?_⟩
    rw [← hconstruct]

/-- The assembly of a type definition gives exactly its entry, under the name made for it. -/
theorem assemblePropertyType_eq_ok_iff {c : Conventions} {t : TypeDefinition} {k : String}
    {entry : PropertyTypeEntry} :
    db.assemblePropertyType c t = .ok (k, entry) ↔
      db.Derives t k ∧ db.PropertyTypeEntryOf c t entry := by
  simp only [assemblePropertyType, bind_eq_ok_iff, pure_eq_ok_iff, Prod.mk.injEq,
    traverse_properties_eq_ok_iff, ← String.append_assoc]
  constructor
  · rintro ⟨parent, hparent, service, hservice, properties, hproperties, rfl, rfl⟩
    exact ⟨⟨parent, hparent, rfl⟩, parent, hparent, ⟨service, hservice, rfl⟩, hproperties⟩
  · rintro ⟨⟨parent, hparent, rfl⟩, parent', hparent', ⟨service, hservice, hbindings⟩, hproperties⟩
    obtain rfl : parent = parent' := Except.ok.inj (hparent.symm.trans hparent')
    refine ⟨parent, hparent, service, hservice, entry.properties, hproperties, rfl, ?_⟩
    rw [← hbindings]

/-! ## The schemas as maps -/

section

variable {db} {c : Conventions}

/-- The resource schema is the table of the entries of the resources, assembled one by one. -/
theorem exists_mapM_of_resourceSchema {resources : ResourceSchema}
    (h : db.resourceSchema c = .ok resources) : ∃ pairs,
    db.document.resources.values.mapM (db.assembleResource c) = .ok pairs ∧
      Table.ofList pairs = resources := by
  simpa only [resourceSchema, bind_eq_ok_iff, pure_eq_ok_iff] using h

/-- The names of the resource schema are the type ids of the resources. -/
theorem mem_names_resourceSchema_iff {resources : ResourceSchema}
    (h : db.resourceSchema c = .ok resources) {k : String} :
    k ∈ resources.names ↔ ∃ r ∈ db.document.resources.values, r.typeId = k := by
  obtain ⟨pairs, hpairs, rfl⟩ := exists_mapM_of_resourceSchema h
  exact Table.mem_names_ofList_of_mapM db.assembleResource_eq_ok_iff hpairs

/-- The entry under a type id is that of the last resource of the type. -/
theorem get?_resourceSchema_iff {resources : ResourceSchema}
    (h : db.resourceSchema c = .ok resources) {k : String} {entry : ResourceEntry} :
    resources.get? k = some entry ↔ ∃ name r,
      db.document.resources.IsLast (·.typeId = k) name r ∧ db.ResourceEntryOf c r entry := by
  obtain ⟨pairs, hpairs, rfl⟩ := exists_mapM_of_resourceSchema h
  exact Table.get?_ofList_of_mapM db.assembleResource_eq_ok_iff hpairs

/-- The property type schema is the table of the entries of the type definitions, assembled one by
one, with the tag type put in. -/
theorem exists_mapM_of_propertyTypeSchema {propertyTypes : PropertyTypeSchema}
    (h : db.propertyTypeSchema c = .ok propertyTypes) : ∃ pairs,
    db.document.typeDefinitions.values.mapM (db.assemblePropertyType c) = .ok pairs ∧
      (Table.ofList pairs).insert tagTypeName (tagEntry c) = propertyTypes := by
  simpa only [propertyTypeSchema, bind_eq_ok_iff, pure_eq_ok_iff] using h

/-- The names of the property type schema are that of the tag type and those made for the type
definitions. -/
theorem mem_names_propertyTypeSchema_iff {propertyTypes : PropertyTypeSchema}
    (h : db.propertyTypeSchema c = .ok propertyTypes) {k : String} :
    k ∈ propertyTypes.names ↔
      k = tagTypeName ∨ ∃ t ∈ db.document.typeDefinitions.values, db.Derives t k := by
  obtain ⟨pairs, hpairs, rfl⟩ := exists_mapM_of_propertyTypeSchema h
  rw [Table.mem_names_insert_iff,
    Table.mem_names_ofList_of_mapM db.assemblePropertyType_eq_ok_iff hpairs]

/-- The entry under another name than that of the tag type is that of the last type definition for
which this name is made. -/
theorem get?_propertyTypeSchema_iff {propertyTypes : PropertyTypeSchema}
    (h : db.propertyTypeSchema c = .ok propertyTypes) {k : String} (hk : k ≠ tagTypeName)
    {entry : PropertyTypeEntry} :
    propertyTypes.get? k = some entry ↔ ∃ name t,
      db.document.typeDefinitions.IsLast (db.Derives · k) name t ∧
        db.PropertyTypeEntryOf c t entry := by
  obtain ⟨pairs, hpairs, rfl⟩ := exists_mapM_of_propertyTypeSchema h
  rw [Table.get?_insert, if_neg hk]
  exact Table.get?_ofList_of_mapM db.assemblePropertyType_eq_ok_iff hpairs

/-- The entry of the tag type is put in last. -/
theorem get?_tagTypeName {propertyTypes : PropertyTypeSchema}
    (h : db.propertyTypeSchema c = .ok propertyTypes) :
    propertyTypes.get? tagTypeName = some (tagEntry c) := by
  obtain ⟨pairs, _, rfl⟩ := exists_mapM_of_propertyTypeSchema h
  rw [Table.get?_insert, if_pos rfl]

end

/-! ## Both schemas -/

/-- Assembly gives two schemas exactly if each is assembled. -/
theorem schemas_eq_ok_iff {c : Conventions} {s : Schemas} :
    db.schemas c = .ok s ↔
      db.propertyTypeSchema c = .ok s.propertyTypes ∧ db.resourceSchema c = .ok s.resources := by
  simp only [schemas, bind_eq_ok_iff, pure_eq_ok_iff]
  constructor
  · rintro ⟨propertyTypes, hpropertyTypes, resources, hresources, rfl⟩
    exact ⟨hpropertyTypes, hresources⟩
  · rintro ⟨hpropertyTypes, hresources⟩
    exact ⟨s.propertyTypes, hpropertyTypes, s.resources, hresources, rfl⟩

/-- Both schemas of a database, described as maps. -/
structure Assembled (db : Database) (c : Conventions) (s : Schemas) : Prop where
  /-- The names of resources are their type ids, which are those that lead to a resource. -/
  resourceNames : ∀ k,
    (k ∈ s.resources.names ↔ ∃ r ∈ db.document.resources.values, r.typeId = k) ∧
      (k ∈ s.resources.names ↔ ∃ r, db.resourceOfType? k = some r)
  /-- Of the resources of one type the last one has the entry. -/
  resourceEntries : ∀ k entry, s.resources.get? k = some entry ↔ ∃ name r,
    db.document.resources.IsLast (·.typeId = k) name r ∧ db.ResourceEntryOf c r entry
  /-- The names of property types are those made for type definitions, and that of the tag type. -/
  propertyTypeNames : ∀ k, k ∈ s.propertyTypes.names ↔
    k = tagTypeName ∨ ∃ t ∈ db.document.typeDefinitions.values, db.Derives t k
  /-- A name is made for every type definition, and never that of the tag type. -/
  derivedNames : ∀ t ∈ db.document.typeDefinitions.values,
    (∃ k, db.Derives t k) ∧ ∀ k, db.Derives t k → k ≠ tagTypeName
  /-- Of the type definitions with one derived name the last one has the entry. -/
  propertyTypeEntries : ∀ k, k ≠ tagTypeName → ∀ entry,
    (s.propertyTypes.get? k = some entry ↔ ∃ name t,
      db.document.typeDefinitions.IsLast (db.Derives · k) name t ∧ db.PropertyTypeEntryOf c t entry)
  /-- The tag type belongs to no service and has two required texts. -/
  tagEntry : ∃ entry, s.propertyTypes.get? tagTypeName = some entry ∧
    entry.bindings = c.coreBindings tagTypeName ∧
    entry.properties.entries =
      [("Key", ⟨"Key", .primitive .string, some true⟩),
        ("Value", ⟨"Value", .primitive .string, some true⟩)]
  /-- An attribute has the same type as every property with the same descriptors that stands in a
  resource of the same type, be it its own property or one of a type definition. -/
  sameTypes : ∀ k entry, s.resources.get? k = some entry → ∃ name r,
    db.document.resources.IsLast (·.typeId = k) name r ∧
      ∀ i a, r.attributes.get? i = some a → ∃ spec, entry.attributes.get? i = some spec ∧
        ∀ j p spec', db.PropertyOf k j p spec' → a.type = p.type →
          a.previousTypes = p.previousTypes → spec.valueType = spec'.valueType

/-- The types of an attribute and of a property are found in one way: the same descriptors lead to
the same type. -/
theorem AttributeOf.valueType_eq {resourceType i j : String} {a : RawAttribute} {p : RawProperty}
    {spec : AttributeSpec} {spec' : PropertySpec} (ha : db.AttributeOf resourceType i a spec)
    (hp : db.PropertyOf resourceType j p spec') (htype : a.type = p.type)
    (hprevious : a.previousTypes = p.previousTypes) : spec.valueType = spec'.valueType := by
  obtain ⟨v, hv, rfl⟩ := ha
  obtain ⟨v', hv', rfl⟩ := hp
  rw [htype, hprevious, hv', Except.ok.injEq] at hv
  exact hv.symm

/-- Every type definition of an assembled database has a parent, and so a name made for it. -/
theorem exists_derives {c : Conventions} {propertyTypes : PropertyTypeSchema}
    (h : db.propertyTypeSchema c = .ok propertyTypes) {t : TypeDefinition}
    (ht : t ∈ db.document.typeDefinitions.values) : ∃ k, db.Derives t k := by
  obtain ⟨pairs, hpairs, _⟩ := exists_mapM_of_propertyTypeSchema h
  obtain ⟨⟨k, entry⟩, hentry⟩ := exists_of_mapM hpairs ht
  exact ⟨k, (db.assemblePropertyType_eq_ok_iff.1 hentry).1⟩

/-- **What an assembly gives.** No entity is lost and none is made up: each name has one entry, made
of the last entity with this name, and the tag type stands beside them. -/
theorem schemas_assembled {db : Database} {c : Conventions} {s : Schemas}
    (h : db.schemas c = .ok s) : db.Assembled c s := by
  obtain ⟨htypes, hresources⟩ := db.schemas_eq_ok_iff.1 h
  constructor
  case resourceNames =>
    intro k
    have hk := mem_names_resourceSchema_iff hresources (k := k)
    exact ⟨hk, hk.trans db.exists_resourceOfType?_iff.symm⟩
  case resourceEntries =>
    intro k entry
    exact get?_resourceSchema_iff hresources
  case propertyTypeNames =>
    intro k
    exact mem_names_propertyTypeSchema_iff htypes
  case derivedNames =>
    intro t ht
    exact ⟨db.exists_derives htypes ht, fun k hk => hk.ne_tagTypeName⟩
  case propertyTypeEntries =>
    intro k hk entry
    exact get?_propertyTypeSchema_iff htypes hk
  case tagEntry =>
    exact ⟨ConstructSchema.tagEntry c, get?_tagTypeName htypes, rfl, rfl⟩
  case sameTypes =>
    intro k entry hentry
    obtain ⟨name, r, hlast, hof⟩ := (get?_resourceSchema_iff hresources).1 hentry
    refine ⟨name, r, hlast, fun i a ha => ?_⟩
    obtain ⟨spec, hattribute, hspec⟩ := hof.attributes.related i a ha
    refine ⟨spec, hspec, fun j p spec' hp => ?_⟩
    exact AttributeOf.valueType_eq db hattribute (hlast.holds ▸ hp)

/-- A service with two resources of one type, of which the second uses a type definition. -/
def shared : Database := ofDocument {
  services := Table.ofList [("s", ⟨"", "aws-s3", "s3", "S3", "AWS::S3"⟩)]
  resources := Table.ofList [
    ("a", ⟨"", "Old", "AWS::S3::Bucket", Table.empty, Table.empty⟩),
    ("b", ⟨"", "Bucket", "AWS::S3::Bucket", Table.ofList [("Arn", ⟨.string, [], none⟩)],
      Table.ofList [
        ("Rules", ⟨.array (.ref "t"), some true, [.json], none⟩),
        ("Tags", ⟨.array .tag, none, [], none⟩)]⟩)]
  typeDefinitions := Table.ofList [
    ("t", ⟨"", "Rule", Table.ofList [("Next", ⟨.union [.ref "t", .null], none, [], none⟩)]⟩)]
  hasResource := [⟨"s", "a"⟩, ⟨"s", "b"⟩]
  usesType := [⟨"b", "t"⟩] }

theorem schemas_assembled_shared : ∃ s, shared.schemas {} = .ok s ∧ shared.Assembled {} s :=
  ⟨_, rfl, schemas_assembled rfl⟩

end Database

end ConstructSchema
