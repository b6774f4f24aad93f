import ConstructSchema.Proofs.Schema.Checks

/-!
Entities that two databases assemble alike.

The assembly of an entity asks its database for little: the owner of a resource, the parent of a
type definition and that parent's owner, and the names behind the references in its descriptors.
Where two databases give the same answers to these, they assemble the entity to the same entry or
fail on it in the same way (`assembleResource_congr`, `assemblePropertyType_congr`). The rest of
the databases plays no part.
-/

namespace ConstructSchema

/-- The descriptors of a resource, of its attributes and then of its properties. -/
def Resource.descriptors (r : Resource) : List Descriptor :=
  r.attributes.values.flatMap RawAttribute.revisions ++
    r.properties.values.flatMap RawProperty.revisions

/-- The descriptors of a type definition. -/
def TypeDefinition.descriptors (t : TypeDefinition) : List Descriptor :=
  t.properties.values.flatMap RawProperty.revisions

/-! ## Descriptors -/

/-- Two ways to find names that agree on the references in some descriptors. -/
def SameNames (nameOf nameOf' : String → Option String) (ds : List Descriptor) : Prop :=
  ∀ d ∈ ds, ∀ id, .ref id ∈ d.nodes → nameOf id = nameOf' id

namespace Descriptor

variable {nameOf nameOf' : String → Option String} {resourceType : String}

mutual

/-- Of the names behind ids only those behind the references of a descriptor matter. -/
theorem resolve_congr {d : Descriptor} (h : ∀ id, .ref id ∈ d.nodes → nameOf id = nameOf' id) :
    d.resolve nameOf resourceType = d.resolve nameOf' resourceType := by
  cases d with
  | ref id => rw [resolve, resolve, h id List.mem_cons_self]
  | array element | map element =>
    rw [resolve, resolve, resolve_congr fun id hid => h id (List.mem_cons_of_mem _ hid)]
  | union types =>
    cases types with
    | nil => rfl
    | cons first rest =>
      have htypes : SameNames nameOf nameOf' (first :: rest) := by
        intro d hd id hid
        refine h id (List.mem_cons_of_mem _ ?_)
        rw [nodesOfAll_eq_flatMap]
        exact List.mem_flatMap.2 ⟨d, hd, hid⟩
      simp only [resolve, resolveAll_congr htypes]
  | _ => rfl

theorem resolveAll_congr {ds : List Descriptor} (h : SameNames nameOf nameOf' ds) :
    resolveAll nameOf resourceType ds = resolveAll nameOf' resourceType ds := by
  cases ds with
  | nil => rfl
  | cons first rest =>
    rw [resolveAll, resolveAll, resolve_congr (h first List.mem_cons_self),
      resolveAll_congr fun d hd => h d (List.mem_cons_of_mem first hd)]

end

/-- The same holds for a descriptor with its earlier revisions. -/
theorem resolveRevisions_congr {current : Descriptor} {previous : List Descriptor}
    (h : SameNames nameOf nameOf' (current :: previous)) :
    current.resolveRevisions nameOf resourceType previous =
      current.resolveRevisions nameOf' resourceType previous := by
  cases previous with
  | nil => exact resolve_congr (h current List.mem_cons_self)
  | cons first rest => simp only [resolveRevisions, resolveAll_congr h]

end Descriptor

/-! ## Entities -/

namespace Database

variable {db db' : Database}

/-- Only the document of a database counts for its schemas, not where it was loaded from. -/
theorem schemas_eq_of_document_eq (h : db.document = db'.document) (c : Conventions) :
    db.schemas c = db'.schemas c := by
  obtain ⟨document, _, _, source, rfl, rfl⟩ := db
  obtain ⟨document', _, _, source', rfl, rfl⟩ := db'
  obtain rfl : document = document' := h
  rfl

theorem traverse_properties_congr (resourceType : String) {properties : Table RawProperty}
    (h : SameNames db.definitionName? db'.definitionName?
      (properties.values.flatMap RawProperty.revisions)) :
    properties.traverse (db.assembleProperty resourceType) =
      properties.traverse (db'.assembleProperty resourceType) := by
  refine Table.traverse_congr fun name p hp => ?_
  rw [assembleProperty, assembleProperty, Descriptor.resolveRevisions_congr]
  intro d hd
  exact h d (List.mem_flatMap.2 ⟨p, hp, hd⟩)

theorem traverse_attributes_congr (resourceType : String) {attributes : Table RawAttribute}
    (h : SameNames db.definitionName? db'.definitionName?
      (attributes.values.flatMap RawAttribute.revisions)) :
    attributes.traverse (db.assembleAttribute resourceType) =
      attributes.traverse (db'.assembleAttribute resourceType) := by
  refine Table.traverse_congr fun name a ha => ?_
  rw [assembleAttribute, assembleAttribute, Descriptor.resolveRevisions_congr]
  intro d hd
  exact h d (List.mem_flatMap.2 ⟨a, ha, hd⟩)

/-- A resource with the same owner and the same names behind its references is assembled alike. -/
theorem assembleResource_congr {r : Resource} (howner : db.serviceOf r = db'.serviceOf r)
    (hnames : SameNames db.definitionName? db'.definitionName? r.descriptors) (c : Conventions) :
    db.assembleResource c r = db'.assembleResource c r := by
  have hattributes := traverse_attributes_congr r.typeId fun d hd =>
    hnames d (List.mem_append_left _ hd)
  have hproperties := traverse_properties_congr r.typeId fun d hd =>
    hnames d (List.mem_append_right _ hd)
  rw [assembleResource, assembleResource, howner, hattributes, hproperties]

/-- A type definition with the same parent, which has the same owner, and the same names behind its
references is assembled alike. -/
theorem assemblePropertyType_congr {t : TypeDefinition} (hparent : db.parentOf t = db'.parentOf t)
    (howner : ∀ parent, db.parentOf t = .ok parent → db.serviceOf parent = db'.serviceOf parent)
    (hnames : SameNames db.definitionName? db'.definitionName? t.descriptors) (c : Conventions) :
    db.assemblePropertyType c t = db'.assemblePropertyType c t := by
  rw [assemblePropertyType, assemblePropertyType, ← hparent]
  cases h : db.parentOf t with
  | error failure => rfl
  | ok parent =>
    simp only [bind, Except.bind, howner parent h, traverse_properties_congr parent.typeId hnames]

end Database

end ConstructSchema
