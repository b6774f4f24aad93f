import ConstructSchema.Proofs.Descriptor.Nodes
import ConstructSchema.Proofs.Spec.Lookups
import ConstructSchema.Schema.Assembly

/-!
When a database can be assembled, and why not if it cannot.

The assembly is described by the list of its checks, in the order in which it makes them: first
those of the type definitions, then those of the resources, each of them in the order of their
names. A check looks at the edges or at one descriptor and at nothing that was assembled. Assembly
fails exactly as the first failing check does (`failureOf_schemas`), and it succeeds exactly on a
consistent database: one parent for each type definition, one owner for each resource, no defective
node (`findSome?_checks_eq_none_iff`).
-/

namespace ConstructSchema

/-- The descriptors of a property, the newest first. -/
def RawProperty.revisions (p : RawProperty) : List Descriptor := p.type :: p.previousTypes

/-- The descriptors of an attribute, the newest first. -/
def RawAttribute.revisions (a : RawAttribute) : List Descriptor := a.type :: a.previousTypes

namespace Database

/-! ## Consistent databases -/

/-- An id that leads to a type definition with a name. -/
def Named (db : Database) (id : String) : Prop :=
  ∃ t, db.document.typeDefinitions.get? id = some t ∧ t.name ≠ ""

/-- All descriptors of a database, current and previous. -/
def descriptors (db : Database) : List Descriptor :=
  (db.document.typeDefinitions.values.flatMap fun t =>
    t.properties.values.flatMap RawProperty.revisions) ++
  db.document.resources.values.flatMap fun r =>
    r.attributes.values.flatMap RawAttribute.revisions ++
      r.properties.values.flatMap RawProperty.revisions

/-- Each type definition has one live edge, each resource has one live edge, and no descriptor has
a defective node. -/
structure Consistent (db : Database) : Prop where
  oneParent : ∀ t ∈ db.document.typeDefinitions.values, (db.userEdges t).length = 1
  oneOwner : ∀ r ∈ db.document.resources.values, (db.ownerEdges r).length = 1
  noDefect : ∀ d ∈ db.descriptors, ∀ node ∈ d.nodes, ¬ node.Defective db.Named

/-! ## Checks -/

/-- A check that the assembly makes. -/
inductive Check where
  /-- The type definition has one parent. -/
  | parent (t : TypeDefinition)
  /-- The resource has one owner. -/
  | owner (r : Resource)
  /-- The descriptor, which stands in a resource of the type, has no defective node. -/
  | descriptor (resourceType : String) (d : Descriptor)

variable (db : Database)

/-- The failure of a check, unless it passes; that of a descriptor is caused by its first defective
node. -/
def Check.failure? : Check → Option Failure
  | .parent t =>
    if (db.userEdges t).length = 1 then none
    else some (.parentNotFound t.name (db.userEdges t).length)
  | .owner r =>
    if (db.ownerEdges r).length = 1 then none
    else some (.serviceNotFound r.typeId (db.ownerEdges r).length)
  | .descriptor resourceType d =>
    d.nodes.findSome? (Descriptor.nodeFailure? db.definitionName? resourceType)

/-- The checks of properties that stand in a resource of a type. -/
def propertyChecks (resourceType : String) (properties : Table RawProperty) : List Check :=
  (properties.values.flatMap RawProperty.revisions).map (.descriptor resourceType)

/-- The checks of attributes that stand in a resource of a type. -/
def attributeChecks (resourceType : String) (attributes : Table RawAttribute) : List Check :=
  (attributes.values.flatMap RawAttribute.revisions).map (.descriptor resourceType)

/-- The resources with a live edge to a type definition. -/
def parents (t : TypeDefinition) : List Resource :=
  (db.userEdges t).filterMap fun e => db.document.resources.get? e.source

/-- The checks of a type definition. What comes behind the first matters only if that passes, and
then there is one parent. -/
def typeChecks (t : TypeDefinition) : List Check :=
  .parent t :: (db.parents t).flatMap fun parent =>
    .owner parent :: propertyChecks parent.typeId t.properties

/-- The checks of a resource. -/
def resourceChecks (r : Resource) : List Check :=
  .owner r :: attributeChecks r.typeId r.attributes ++ propertyChecks r.typeId r.properties

/-- The checks of the assembly, in its order. -/
def checks : List Check :=
  db.document.typeDefinitions.values.flatMap db.typeChecks ++
    db.document.resources.values.flatMap resourceChecks

/-! ## The assembly fails as its first failing check does -/

/-- A descriptor with its earlier revisions fails as the first failing check of all of them does. -/
theorem failureOf_resolveRevisions (resourceType : String) (current : Descriptor)
    (previous : List Descriptor) :
    failureOf (current.resolveRevisions db.definitionName? resourceType previous) =
      (current :: previous).findSome? fun d => (Check.descriptor resourceType d).failure? db := by
  rw [Descriptor.failureOf_resolveRevisions, Descriptor.nodesOfAll_eq_flatMap, findSome?_flatMap]
  rfl

/-- Values that each fail as the first check of their descriptors does fail together as the first of
all these checks does. -/
theorem failureOf_traverse {α β : Type} {f : String → α → Except Failure β}
    {revisions : α → List Descriptor} {resourceType : String}
    (hf : ∀ name a, failureOf (f name a) =
      (revisions a).findSome? fun d => (Check.descriptor resourceType d).failure? db)
    (t : Table α) :
    failureOf (t.traverse f) =
      ((t.values.flatMap revisions).map (.descriptor resourceType)).findSome?
        (Check.failure? db) := by
  simp only [Table.failureOf_traverse, hf, Table.values, List.findSome?_map, findSome?_flatMap]
  rfl

theorem failureOf_traverse_properties (resourceType : String) (properties : Table RawProperty) :
    failureOf (properties.traverse (db.assembleProperty resourceType)) =
      (propertyChecks resourceType properties).findSome? (Check.failure? db) := by
  refine db.failureOf_traverse (fun name p => ?_) properties
  rw [assembleProperty, failureOf_map, failureOf_resolveRevisions, RawProperty.revisions]

theorem failureOf_traverse_attributes (resourceType : String) (attributes : Table RawAttribute) :
    failureOf (attributes.traverse (db.assembleAttribute resourceType)) =
      (attributeChecks resourceType attributes).findSome? (Check.failure? db) := by
  refine db.failureOf_traverse (fun name a => ?_) attributes
  rw [assembleAttribute, failureOf_map, failureOf_resolveRevisions, RawAttribute.revisions]

/-- A resource fails as its first failing check does. -/
theorem failureOf_assembleResource (c : Conventions) (r : Resource) :
    failureOf (db.assembleResource c r) = (resourceChecks r).findSome? (Check.failure? db) := by
  have howner : failureOf (db.serviceOf r) = (Check.owner r).failure? db := db.failureOf_serviceOf r
  have hattributes := db.failureOf_traverse_attributes r.typeId r.attributes
  have hproperties := db.failureOf_traverse_properties r.typeId r.properties
  rw [resourceChecks, List.cons_append, List.findSome?_cons, List.findSome?_append, ← howner,
    ← hattributes, ← hproperties, assembleResource]
  cases db.serviceOf r with
  | error failure => rfl
  | ok service =>
    cases r.attributes.traverse (db.assembleAttribute r.typeId) with
    | error failure => rfl
    | ok attributes => cases r.properties.traverse (db.assembleProperty r.typeId) <;> rfl

/-- A type definition fails as its first failing check does. -/
theorem failureOf_assemblePropertyType (c : Conventions) (t : TypeDefinition) :
    failureOf (db.assemblePropertyType c t) = (db.typeChecks t).findSome? (Check.failure? db) := by
  have hparent : failureOf (db.parentOf t) = (Check.parent t).failure? db :=
    db.failureOf_parentOf t
  rw [typeChecks, List.findSome?_cons, ← hparent, assemblePropertyType]
  cases h : db.parentOf t with
  | error failure => rfl
  | ok parent =>
    have howner : failureOf (db.serviceOf parent) = (Check.owner parent).failure? db :=
      db.failureOf_serviceOf parent
    have hproperties := db.failureOf_traverse_properties parent.typeId t.properties
    obtain ⟨e, hedges, hsource⟩ := db.parentOf_eq_ok_iff.1 h
    have hparents : db.parents t = [parent] := by simp [parents, hedges, hsource]
    rw [hparents, List.flatMap_singleton, List.findSome?_cons, ← howner, ← hproperties]
    simp only [bind, Except.bind, failureOf_ok]
    cases db.serviceOf parent with
    | error failure => rfl
    | ok service => cases t.properties.traverse (db.assembleProperty parent.typeId) <;> rfl

/-- The assembly of both schemas fails as its first failing check does. -/
theorem failureOf_schemas (c : Conventions) :
    failureOf (db.schemas c) = db.checks.findSome? (Check.failure? db) := by
  have htypes : failureOf (db.propertyTypeSchema c) =
      (db.document.typeDefinitions.values.flatMap db.typeChecks).findSome? (Check.failure? db) := by
    simp only [propertyTypeSchema, failureOf_bind_pure, failureOf_mapM,
      failureOf_assemblePropertyType, findSome?_flatMap]
  have hresources : failureOf (db.resourceSchema c) =
      (db.document.resources.values.flatMap resourceChecks).findSome? (Check.failure? db) := by
    simp only [resourceSchema, failureOf_bind_pure, failureOf_mapM, failureOf_assembleResource,
      findSome?_flatMap]
  rw [checks, List.findSome?_append, ← htypes, ← hresources, schemas]
  cases db.propertyTypeSchema c with
  | error failure => rfl
  | ok propertyTypes => cases db.resourceSchema c <;> rfl

/-! ## All checks pass exactly on a consistent database -/

/-- The ids that lead to a name are those under which the resolver finds one. -/
theorem named_iff (id : String) : db.Named id ↔ ∃ name, db.definitionName? id = some name := by
  simp [Named, definitionName?_eq_some_iff]

theorem failure?_descriptor_eq_none_iff {resourceType : String} {d : Descriptor} :
    (Check.descriptor resourceType d).failure? db = none ↔
      ∀ node ∈ d.nodes, ¬ node.Defective db.Named := by
  simp only [Check.failure?, List.findSome?_eq_none_iff,
    Descriptor.nodeFailure?_eq_none_iff _ _ db.named_iff]

theorem failure?_parent_eq_none_iff {t : TypeDefinition} :
    (Check.parent t).failure? db = none ↔ (db.userEdges t).length = 1 := by
  simp [Check.failure?]

theorem failure?_owner_eq_none_iff {r : Resource} :
    (Check.owner r).failure? db = none ↔ (db.ownerEdges r).length = 1 := by
  simp [Check.failure?]

/-- The parents of a type definition are resources of the table. -/
theorem mem_values_of_mem_parents {t : TypeDefinition} {parent : Resource}
    (h : parent ∈ db.parents t) : parent ∈ db.document.resources.values := by
  obtain ⟨e, _, hget⟩ := List.mem_filterMap.1 h
  exact Table.mem_values_iff.2 ⟨e.source, hget⟩

/-- A type definition with one live edge has a parent. -/
theorem exists_mem_parents {t : TypeDefinition} (h : (db.userEdges t).length = 1) :
    ∃ parent, parent ∈ db.parents t := by
  obtain ⟨e, he⟩ := List.length_eq_one_iff.1 h
  have hlive : e ∈ db.userEdges t := by simp [he]
  obtain ⟨_, _, parent, hget⟩ := mem_liveEdges.1 hlive
  exact ⟨parent, List.mem_filterMap.2 ⟨e, hlive, hget⟩⟩

theorem forall_typeChecks_iff {t : TypeDefinition} :
    (∀ check ∈ db.typeChecks t, check.failure? db = none) ↔
      (db.userEdges t).length = 1 ∧
        (∀ parent ∈ db.parents t, (db.ownerEdges parent).length = 1) ∧
        ∀ d ∈ t.properties.values.flatMap RawProperty.revisions,
          ∀ node ∈ d.nodes, ¬ node.Defective db.Named := by
  simp only [typeChecks, propertyChecks, List.forall_mem_cons, List.forall_mem_flatMap,
    List.forall_mem_map, failure?_parent_eq_none_iff, failure?_owner_eq_none_iff,
    failure?_descriptor_eq_none_iff]
  constructor
  · rintro ⟨hone, hparents⟩
    obtain ⟨parent, hparent⟩ := db.exists_mem_parents hone
    exact ⟨hone, fun parent hparent => (hparents parent hparent).1, (hparents parent hparent).2⟩
  · rintro ⟨hone, howners, hdefect⟩
    exact ⟨hone, fun parent hparent => ⟨howners parent hparent, hdefect⟩⟩

theorem forall_resourceChecks_iff {r : Resource} :
    (∀ check ∈ resourceChecks r, check.failure? db = none) ↔
      (db.ownerEdges r).length = 1 ∧
        ∀ d ∈ r.attributes.values.flatMap RawAttribute.revisions ++
          r.properties.values.flatMap RawProperty.revisions,
          ∀ node ∈ d.nodes, ¬ node.Defective db.Named := by
  simp only [resourceChecks, attributeChecks, propertyChecks, List.cons_append,
    ← List.map_append, List.forall_mem_cons, List.forall_mem_map,
    failure?_owner_eq_none_iff, failure?_descriptor_eq_none_iff]

/-- All checks pass exactly on a consistent database. The owner of a parent need not be asked for:
the parent is a resource of the table and has its own check. -/
theorem findSome?_checks_eq_none_iff :
    db.checks.findSome? (Check.failure? db) = none ↔ db.Consistent := by
  have hchecks : db.checks.findSome? (Check.failure? db) = none ↔
      (∀ t ∈ db.document.typeDefinitions.values, ∀ check ∈ db.typeChecks t,
        check.failure? db = none) ∧
      ∀ r ∈ db.document.resources.values, ∀ check ∈ resourceChecks r, check.failure? db = none := by
    rw [List.findSome?_eq_none_iff, checks, List.forall_mem_append, List.forall_mem_flatMap,
      List.forall_mem_flatMap]
  have hdescriptors : (∀ d ∈ db.descriptors, ∀ node ∈ d.nodes, ¬ node.Defective db.Named) ↔
      (∀ t ∈ db.document.typeDefinitions.values,
        ∀ d ∈ t.properties.values.flatMap RawProperty.revisions,
          ∀ node ∈ d.nodes, ¬ node.Defective db.Named) ∧
      ∀ r ∈ db.document.resources.values,
        ∀ d ∈ r.attributes.values.flatMap RawAttribute.revisions ++
          r.properties.values.flatMap RawProperty.revisions,
          ∀ node ∈ d.nodes, ¬ node.Defective db.Named := by
    rw [descriptors, List.forall_mem_append, List.forall_mem_flatMap, List.forall_mem_flatMap]
  rw [hchecks]
  simp only [forall_typeChecks_iff, forall_resourceChecks_iff]
  constructor
  · rintro ⟨htypes, hresources⟩
    exact ⟨fun t ht => (htypes t ht).1, fun r hr => (hresources r hr).1,
      hdescriptors.2 ⟨fun t ht => (htypes t ht).2.2, fun r hr => (hresources r hr).2⟩⟩
  · intro h
    obtain ⟨htypes, hresources⟩ := hdescriptors.1 h.noDefect
    refine ⟨fun t ht => ⟨h.oneParent t ht, fun parent hparent => ?_, htypes t ht⟩,
      fun r hr => ⟨h.oneOwner r hr, hresources r hr⟩⟩
    exact h.oneOwner parent (db.mem_values_of_mem_parents hparent)

/-- **The outcome of an assembly.** On a consistent database it gives the schemas. Otherwise it
fails, and the failure is that of the first failing check. The conventions play no part. -/
theorem schemas_ok_or_first_failure (db : Database) (c : Conventions) :
    (db.Consistent ∧ ∃ s, db.schemas c = .ok s) ∨
      ¬ db.Consistent ∧ ∃ failure,
        db.checks.findSome? (Check.failure? db) = some failure ∧ db.schemas c = .error failure := by
  rw [← findSome?_checks_eq_none_iff, ← failureOf_schemas db c]
  cases db.schemas c with
  | ok s => exact Or.inl ⟨rfl, s, rfl⟩
  | error failure => exact Or.inr ⟨by simp, failure, rfl, rfl⟩

end Database

end ConstructSchema
