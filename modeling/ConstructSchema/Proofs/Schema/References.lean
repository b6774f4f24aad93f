import ConstructSchema.Proofs.Descriptor.Nodes
import ConstructSchema.Proofs.Schema.Checks
import ConstructSchema.Proofs.Schema.Entries

/-!
What the names in the types of a schema stand for.

A name is made where a descriptor is resolved, from the type of the resource it stands in, and an
entry gets its name where a type definition is assembled, from the type of its parent. `Refers` says
how the two meet: a name is that of the tag type, or that of a type definition to which the
descriptor refers, and if the parent of this one is of the same type then it has an entry. So a
reference that stays inside its resource leads to an entry (`ReferencesHold`). One that leaves it
may not: its name has the wrong type in front.
-/

namespace ConstructSchema

namespace Database

/-- What a name in a type stands for, where `descriptors` made the type in a resource of the type
`resourceType`. -/
inductive Refers (db : Database) (propertyTypes : PropertyTypeSchema) (resourceType : String)
    (descriptors : List Descriptor) : String → Prop
  /-- The tag type, which has an entry. -/
  | tag (hnode : .tag ∈ Descriptor.nodesOfAll descriptors)
    (hentry : tagTypeName ∈ propertyTypes.names) :
    Refers db propertyTypes resourceType descriptors tagTypeName
  /-- A type definition with a name. It has an entry if its parent is of the type of the
  resource. -/
  | definition {id : String} {t : TypeDefinition}
    (hnode : .ref id ∈ Descriptor.nodesOfAll descriptors)
    (hget : db.document.typeDefinitions.get? id = some t) (hname : t.name ≠ "")
    (hentry : ∀ parent, db.parentOf t = .ok parent → parent.typeId = resourceType →
      resourceType ++ "." ++ t.name ++ "Property" ∈ propertyTypes.names) :
    Refers db propertyTypes resourceType descriptors (resourceType ++ "." ++ t.name)

/-- Each value of `out` comes from the value of `raw` with its name, and every name in its type
stands for something to which a descriptor of that value refers. -/
def TypesRefer {α β : Type} (db : Database) (propertyTypes : PropertyTypeSchema)
    (resourceType : String) (revisions : α → List Descriptor) (valueType : β → ValueType)
    (raw : Table α) (out : Table β) : Prop :=
  ∀ k b, out.get? k = some b → ∃ a, raw.get? k = some a ∧
    ∀ n ∈ (valueType b).names, db.Refers propertyTypes resourceType (revisions a) n

variable {db : Database} {c : Conventions} {propertyTypes : PropertyTypeSchema}

/-! ## One type -/

/-- The entry of a type definition stands under the name that a reference gets, with an ending. -/
theorem mem_names_of_parentOf (h : db.propertyTypeSchema c = .ok propertyTypes)
    {id : String} {t : TypeDefinition} (hget : db.document.typeDefinitions.get? id = some t)
    {parent : Resource} (hparent : db.parentOf t = .ok parent) :
    parent.typeId ++ "." ++ t.name ++ "Property" ∈ propertyTypes.names := by
  rw [mem_names_propertyTypeSchema_iff h]
  exact Or.inr ⟨t, Table.mem_values_iff.2 ⟨id, hget⟩, parent, hparent, rfl⟩

/-- The name that a node becomes stands for what the node refers to. -/
theorem refers_of_node (h : db.propertyTypeSchema c = .ok propertyTypes)
    {resourceType n : String} {descriptors : List Descriptor} {node : Descriptor}
    (hnode : node ∈ Descriptor.nodesOfAll descriptors)
    (hname : node.nodeName? db.definitionName? resourceType = some n) :
    db.Refers propertyTypes resourceType descriptors n := by
  cases node with
  | tag =>
    obtain rfl : tagTypeName = n := Option.some.inj hname
    exact .tag hnode ((mem_names_propertyTypeSchema_iff h).2 (Or.inl rfl))
  | ref id =>
    obtain ⟨name, hid, rfl⟩ := Option.map_eq_some_iff.1 hname
    obtain ⟨t, hget, hne, rfl⟩ := db.definitionName?_eq_some_iff.1 hid
    refine .definition hnode hget hne ?_
    rintro parent hparent rfl
    exact mem_names_of_parentOf h hget hparent
  | _ => cases hname

/-- Every name in a type stands for something to which the descriptors of the type refer. -/
theorem refers_of_resolveRevisions (h : db.propertyTypeSchema c = .ok propertyTypes)
    {resourceType : String} {current : Descriptor} {previous : List Descriptor} {v : ValueType}
    (hv : current.resolveRevisions db.definitionName? resourceType previous = .ok v)
    {n : String} (hn : n ∈ v.names) :
    db.Refers propertyTypes resourceType (current :: previous) n := by
  rw [Descriptor.names_of_resolveRevisions _ _ hv, List.mem_filterMap] at hn
  obtain ⟨node, hnode, hname⟩ := hn
  exact refers_of_node h hnode hname

/-! ## One entry -/

theorem typesRefer_of_properties (h : db.propertyTypeSchema c = .ok propertyTypes)
    {resourceType : String} {raw : Table RawProperty} {out : Table PropertySpec}
    (hall : raw.Pointwise (db.PropertyOf resourceType) out) :
    db.TypesRefer propertyTypes resourceType RawProperty.revisions PropertySpec.valueType raw
      out := by
  intro k spec hspec
  obtain ⟨p, hp, v, hv, rfl⟩ := hall.exists_of_get? hspec
  exact ⟨p, hp, fun n hn => refers_of_resolveRevisions h hv hn⟩

theorem typesRefer_of_attributes (h : db.propertyTypeSchema c = .ok propertyTypes)
    {resourceType : String} {raw : Table RawAttribute} {out : Table AttributeSpec}
    (hall : raw.Pointwise (db.AttributeOf resourceType) out) :
    db.TypesRefer propertyTypes resourceType RawAttribute.revisions AttributeSpec.valueType raw
      out := by
  intro k spec hspec
  obtain ⟨a, ha, v, hv, rfl⟩ := hall.exists_of_get? hspec
  exact ⟨a, ha, fun n hn => refers_of_resolveRevisions h hv hn⟩

/-- The tag type is made of texts, in which there are no names. -/
theorem names_of_tagEntry {k : String} {spec : PropertySpec}
    (h : (tagEntry c).properties.get? k = some spec) : spec.valueType.names = [] := by
  have hmem : (k, spec) ∈ [("Key", PropertySpec.mk "Key" (.primitive .string) (some true)),
      ("Value", ⟨"Value", .primitive .string, some true⟩)] := Table.get?_eq_some_iff.1 h
  simp only [List.mem_cons, Prod.mk.injEq, List.not_mem_nil, or_false] at hmem
  rcases hmem with ⟨_, rfl⟩ | ⟨_, rfl⟩ <;> rfl

/-! ## Both schemas -/

/-- Every name in the types of both schemas stands for something to which the descriptors behind it
refer. -/
structure ReferencesHold (db : Database) (s : Schemas) : Prop where
  /-- In the entry of a resource the names have the type of that resource in front. -/
  resources : ∀ k entry, s.resources.get? k = some entry → ∃ name r,
    db.document.resources.IsLast (·.typeId = k) name r ∧
      db.TypesRefer s.propertyTypes r.typeId RawAttribute.revisions AttributeSpec.valueType
        r.attributes entry.attributes ∧
      db.TypesRefer s.propertyTypes r.typeId RawProperty.revisions PropertySpec.valueType
        r.properties entry.properties
  /-- In the entry of a type definition they have that of its parent in front. -/
  propertyTypes : ∀ k entry, s.propertyTypes.get? k = some entry → k ≠ tagTypeName →
    ∃ name t parent, db.document.typeDefinitions.IsLast (db.Derives · k) name t ∧
      db.parentOf t = .ok parent ∧
      db.TypesRefer s.propertyTypes parent.typeId RawProperty.revisions PropertySpec.valueType
        t.properties entry.properties
  /-- In the entry of the tag type there are none. -/
  tag : ∃ entry, s.propertyTypes.get? tagTypeName = some entry ∧
    ∀ k spec, entry.properties.get? k = some spec → spec.valueType.names = []

/-- **References hold.** What the names of an assembled database lead to is there, as long as they
stay inside their resource. -/
theorem schemas_references_hold {db : Database} {c : Conventions} {s : Schemas}
    (h : db.schemas c = .ok s) : db.ReferencesHold s := by
  obtain ⟨htypes, hresources⟩ := db.schemas_eq_ok_iff.1 h
  constructor
  case resources =>
    intro k entry hentry
    obtain ⟨name, r, hlast, hof⟩ := (get?_resourceSchema_iff hresources).1 hentry
    exact ⟨name, r, hlast, typesRefer_of_attributes htypes hof.attributes,
      typesRefer_of_properties htypes hof.properties⟩
  case propertyTypes =>
    intro k entry hentry hk
    obtain ⟨name, t, hlast, parent, hparent, _, hproperties⟩ :=
      (get?_propertyTypeSchema_iff htypes hk).1 hentry
    exact ⟨name, t, parent, hlast, hparent, typesRefer_of_properties htypes hproperties⟩
  case tag =>
    exact ⟨tagEntry c, get?_tagTypeName htypes, fun k spec => names_of_tagEntry⟩

/-- The rules of the second resource are a list of the type definition that it uses. -/
theorem schemas_references_hold_shared : ∃ s entry spec,
    shared.schemas {} = .ok s ∧ s.resources.get? "AWS::S3::Bucket" = some entry ∧
      entry.properties.get? "Rules" = some spec ∧
      spec.valueType.names = ["AWS::S3::Bucket.Rule"] ∧ shared.ReferencesHold s :=
  ⟨_, _, _, rfl, rfl, rfl, rfl, schemas_references_hold rfl⟩

end Database

end ConstructSchema
