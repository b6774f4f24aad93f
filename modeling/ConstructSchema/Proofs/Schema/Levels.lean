import ConstructSchema.Proofs.Schema.Entries
import ConstructSchema.Proofs.Schema.RoundTrip
import ConstructSchema.Proofs.Spec.Levels

/-!
How deeply the texts of the schemas are nested.

In a schema a value type stands four levels down: the schema, the entry, the table of the
properties and the property stand around it. In a specification its descriptor stands five levels
down, and without earlier revisions the type nests no deeper than the descriptor. So a database
that loads from a text within the limit gives schemas whose texts are within the limit, and these
are read back as they were (`schemas_read_back`).
-/

namespace ConstructSchema

open Json (levels levelsOfMembers)

/-! ## Entries -/

@[simp] theorem Bindings.levels_toJson (b : Bindings) : b.toJson.levels = 2 := by
  simp [Bindings.toJson, Binding.toJson, GoBinding.toJson, levels, levelsOfMembers]

@[simp] theorem PropertySpec.levels_toJson (p : PropertySpec) :
    p.toJson.levels = p.valueType.toJson.levels + 1 := by
  obtain ⟨name, valueType, required⟩ := p
  cases required <;> simp [PropertySpec.toJson, levels, levelsOfMembers]

@[simp] theorem AttributeSpec.levels_toJson (a : AttributeSpec) :
    a.toJson.levels = a.valueType.toJson.levels + 1 := by
  simp [AttributeSpec.toJson, levels, levelsOfMembers]

/-- The types of an entry with nothing deeper than `n` stand in three more levels, which hold its
bindings as well. -/
theorem PropertyTypeEntry.levels_toJson_le {e : PropertyTypeEntry} {n : Nat}
    (h : ∀ p ∈ e.properties.values, p.valueType.toJson.levels ≤ n) : e.toJson.levels ≤ n + 3 := by
  have hproperties : (Json.ofTable PropertySpec.toJson e.properties).levels ≤ n + 2 :=
    Json.levels_ofTable_le_iff.2 ⟨by omega, by simpa using h⟩
  rw [toJson, levels, levelsOfMembers, levelsOfMembers, levelsOfMembers, Bindings.levels_toJson]
  omega

theorem ResourceEntry.levels_toJson_le {e : ResourceEntry} {n : Nat}
    (hattributes : ∀ a ∈ e.attributes.values, a.valueType.toJson.levels ≤ n)
    (hproperties : ∀ p ∈ e.properties.values, p.valueType.toJson.levels ≤ n) :
    e.toJson.levels ≤ n + 3 := by
  have hattributes : (Json.ofTable AttributeSpec.toJson e.attributes).levels ≤ n + 2 :=
    Json.levels_ofTable_le_iff.2 ⟨by omega, by simpa using hattributes⟩
  have hproperties : (Json.ofTable PropertySpec.toJson e.properties).levels ≤ n + 2 :=
    Json.levels_ofTable_le_iff.2 ⟨by omega, by simpa using hproperties⟩
  rw [toJson, levels, levelsOfMembers, levelsOfMembers, levelsOfMembers, levelsOfMembers,
    Bindings.levels_toJson]
  omega

/-! ## Assembled types -/

namespace Database

/-- No property and no attribute has an earlier revision. -/
structure NoRevisions (db : Database) : Prop where
  typeDefinitions : ∀ t ∈ db.document.typeDefinitions.values,
    ∀ p ∈ t.properties.values, p.previousTypes = []
  attributes : ∀ r ∈ db.document.resources.values,
    ∀ a ∈ r.attributes.values, a.previousTypes = []
  properties : ∀ r ∈ db.document.resources.values,
    ∀ p ∈ r.properties.values, p.previousTypes = []

variable {db : Database} {c : Conventions} {n : Nat}

/-- Values without earlier revisions, resolved one by one, have types that nest no deeper than their
descriptors. -/
theorem levels_valueType_of_pointwise {α β : Type} {R : String → α → β → Prop} {raw : Table α}
    {out : Table β} (hall : raw.Pointwise R out) {resourceType : String} {type : α → Descriptor}
    {previous : α → List Descriptor} {valueType : β → ValueType}
    (hR : ∀ k a b, R k a b → (type a).resolveRevisions db.definitionName? resourceType
      (previous a) = .ok (valueType b))
    (hnone : ∀ a ∈ raw.values, previous a = [])
    (hn : ∀ d ∈ raw.values.flatMap fun a => type a :: previous a, d.toJson.levels ≤ n) :
    ∀ b ∈ out.values, (valueType b).toJson.levels ≤ n := by
  intro b hb
  obtain ⟨k, hk⟩ := Table.mem_values_iff.1 hb
  obtain ⟨a, ha, hrel⟩ := hall.exists_of_get? hk
  have hmem : a ∈ raw.values := Table.mem_values_iff.2 ⟨k, ha⟩
  have hresolve := hR k a b hrel
  rw [hnone a hmem] at hresolve
  exact (Descriptor.levels_toJson_of_resolve hresolve).trans
    (hn (type a) (List.mem_flatMap.2 ⟨a, hmem, List.mem_cons_self⟩))

theorem PropertyOf.resolveRevisions_eq {resourceType name : String} {p : RawProperty}
    {spec : PropertySpec} (h : db.PropertyOf resourceType name p spec) :
    p.type.resolveRevisions db.definitionName? resourceType p.previousTypes =
      .ok spec.valueType := by
  obtain ⟨v, hv, rfl⟩ := h
  exact hv

theorem AttributeOf.resolveRevisions_eq {resourceType name : String} {a : RawAttribute}
    {spec : AttributeSpec} (h : db.AttributeOf resourceType name a spec) :
    a.type.resolveRevisions db.definitionName? resourceType a.previousTypes =
      .ok spec.valueType := by
  obtain ⟨v, hv, rfl⟩ := h
  exact hv

/-- The two texts of the tag type have one level. -/
theorem levels_tagEntry_le (hn : 0 < n) :
    ∀ p ∈ (tagEntry c).properties.values, p.valueType.toJson.levels ≤ n := by
  have hvalues : (tagEntry c).properties.values =
      [⟨"Key", .primitive .string, some true⟩, ⟨"Value", .primitive .string, some true⟩] := rfl
  rw [hvalues]
  simpa using Nat.succ_le_of_lt hn

/-! ## The schemas -/

/-- The resource schema nests four levels deeper than the descriptors behind it. -/
theorem levels_resourceSchema_le {resources : ResourceSchema}
    (h : db.resourceSchema c = .ok resources) (hnone : db.NoRevisions)
    (hn : ∀ d ∈ db.descriptors, d.toJson.levels ≤ n) :
    (ResourceSchema.toJson resources).levels ≤ n + 4 := by
  rw [descriptors, List.forall_mem_append, List.forall_mem_flatMap, List.forall_mem_flatMap] at hn
  refine Json.levels_ofTable_le_iff.2 ⟨by omega, fun entry hentry => ?_⟩
  obtain ⟨k, hk⟩ := Table.mem_values_iff.1 hentry
  obtain ⟨name, r, hlast, hof⟩ := (get?_resourceSchema_iff h).1 hk
  have hr : r ∈ db.document.resources.values := Table.mem_values_iff.2 ⟨name, hlast.get?_eq⟩
  have hdescriptors := hn.2 r hr
  rw [List.forall_mem_append] at hdescriptors
  have hattributes := levels_valueType_of_pointwise hof.attributes
    (fun _ _ _ => AttributeOf.resolveRevisions_eq) (hnone.attributes r hr) hdescriptors.1
  have hproperties := levels_valueType_of_pointwise hof.properties
    (fun _ _ _ => PropertyOf.resolveRevisions_eq) (hnone.properties r hr) hdescriptors.2
  exact Nat.succ_le_succ (ResourceEntry.levels_toJson_le hattributes hproperties)

/-- So does the property type schema, with at least the levels of the tag type. -/
theorem levels_propertyTypeSchema_le {propertyTypes : PropertyTypeSchema}
    (h : db.propertyTypeSchema c = .ok propertyTypes) (hnone : db.NoRevisions)
    (hn : ∀ d ∈ db.descriptors, d.toJson.levels ≤ n) (hpos : 0 < n) :
    (PropertyTypeSchema.toJson propertyTypes).levels ≤ n + 4 := by
  rw [descriptors, List.forall_mem_append, List.forall_mem_flatMap, List.forall_mem_flatMap] at hn
  refine Json.levels_ofTable_le_iff.2 ⟨by omega, fun entry hentry => ?_⟩
  refine Nat.succ_le_succ (PropertyTypeEntry.levels_toJson_le ?_)
  obtain ⟨k, hk⟩ := Table.mem_values_iff.1 hentry
  by_cases htag : k = tagTypeName
  · rw [htag, get?_tagTypeName h, Option.some.injEq] at hk
    exact hk ▸ levels_tagEntry_le hpos
  · obtain ⟨name, t, hlast, parent, _, _, hproperties⟩ := (get?_propertyTypeSchema_iff h htag).1 hk
    have ht : t ∈ db.document.typeDefinitions.values :=
      Table.mem_values_iff.2 ⟨name, hlast.get?_eq⟩
    exact levels_valueType_of_pointwise hproperties
      (fun _ _ _ => PropertyOf.resolveRevisions_eq) (hnone.typeDefinitions t ht) (hn.1 t ht)

/-- **What is written can be read back.** A schema whose text nests within the limit of the reader
is read back from it as it was, and the texts of both schemas nest within the limit if the database
was loaded from a text and has no revisions. -/
theorem schemas_read_back :
    (∀ s : PropertyTypeSchema,
      Json.nesting (PropertyTypeSchema.render s) ≤ Json.nestingLimit →
        PropertyTypeSchema.read (PropertyTypeSchema.render s) = .ok s) ∧
    (∀ s : ResourceSchema,
      Json.nesting (ResourceSchema.render s) ≤ Json.nestingLimit →
        ResourceSchema.read (ResourceSchema.render s) = .ok s) ∧
    ∀ (text : String) (db : Database) (c : Conventions) (s : Schemas),
      ofText text = .ok db → db.NoRevisions → db.schemas c = .ok s →
        Json.nesting (PropertyTypeSchema.render s.propertyTypes) ≤ Json.nestingLimit ∧
        Json.nesting (ResourceSchema.render s.resources) ≤ Json.nestingLimit := by
  refine ⟨fun s => PropertyTypeSchema.read_render, fun s => ResourceSchema.read_render, ?_⟩
  intro text db c s hload hnone hs
  obtain ⟨htypes, hresources⟩ := db.schemas_eq_ok_iff.1 hs
  have hn : ∀ d ∈ db.descriptors, d.toJson.levels ≤ Json.nestingLimit - 5 := fun d hd =>
    Nat.le_sub_of_add_le (levels_descriptors_of_ofText hload d hd)
  constructor
  · have hle := levels_propertyTypeSchema_le htypes hnone hn (by decide)
    rw [PropertyTypeSchema.render, (PropertyTypeSchema.textual_toJson _).nesting_pretty]
    exact hle.trans (by decide)
  · have hle := levels_resourceSchema_le hresources hnone hn
    rw [ResourceSchema.render, (ResourceSchema.textual_toJson _).nesting_pretty]
    exact hle.trans (by decide)

theorem schemas_read_back_bucket : ∃ s,
    ofText bucketDocument.toJson.pretty = .ok (ofDocument bucketDocument) ∧
    (ofDocument bucketDocument).NoRevisions ∧
    (ofDocument bucketDocument).schemas {} = .ok s ∧
    PropertyTypeSchema.read (PropertyTypeSchema.render s.propertyTypes) = .ok s.propertyTypes ∧
    ResourceSchema.read (ResourceSchema.render s.resources) = .ok s.resources := by
  have hnone : (ofDocument bucketDocument).NoRevisions :=
    ⟨by decide, by decide, by decide⟩
  obtain ⟨s, hs⟩ : ∃ s, (ofDocument bucketDocument).schemas {} = .ok s := ⟨_, rfl⟩
  obtain ⟨htypes, hresources, hnesting⟩ := schemas_read_back
  obtain ⟨hn₁, hn₂⟩ := hnesting _ _ _ _ ofText_bucketDocument hnone hs
  exact ⟨s, ofText_bucketDocument, hnone, hs, htypes _ hn₁, hresources _ hn₂⟩

end Database

end ConstructSchema
