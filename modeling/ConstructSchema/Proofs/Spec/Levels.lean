import ConstructSchema.Proofs.Descriptor.Levels
import ConstructSchema.Proofs.Schema.Agreement
import ConstructSchema.Proofs.Spec.RoundTrip

/-!
How deeply the descriptors of a document are nested.

A document that was decoded holds its descriptors five levels down at least: the document, the
table of its entities, the entity, the table of its properties and the property stand around each
of them. A text is read with a limit, so the descriptors of a database that loads stay below it by
as much (`levels_descriptors_of_ofText`).
-/

namespace ConstructSchema

variable {j : Json}

/-- A list that may be left out is decoded from items two levels down. -/
theorem Json.exists_of_optional_listOf {α : Type} {decode : Json → Except Fault α}
    {names : List String} {r : Record Json} (h : j.record names = .ok r) {name : String}
    {as : List α} (has : Record.optional [] (r.field name (Json.listOf decode)) = .ok as) :
    ∀ a ∈ as, ∃ value, value.levels + 2 ≤ j.levels ∧ decode value = .ok a := by
  intro a ha
  obtain rfl | ⟨value, hvalue, hlist⟩ := Json.exists_of_optional h has
  · cases ha
  · obtain ⟨item, hitem, hdecode⟩ := Json.exists_of_listOf hlist a ha
    exact ⟨item, by omega, hdecode⟩

/-- A table that may be left out is decoded from members two levels down. -/
theorem Json.exists_of_optional_tableOf {α : Type} {decode : Json → Except Fault α}
    {names : List String} {r : Record Json} (h : j.record names = .ok r) {name : String}
    {t : Table α} (ht : Record.optional .empty (r.field name (Json.tableOf decode)) = .ok t) :
    ∀ a ∈ t.values, ∃ value, value.levels + 2 ≤ j.levels ∧ decode value = .ok a := by
  intro a ha
  obtain rfl | ⟨value, hvalue, htable⟩ := Json.exists_of_optional h ht
  · cases ha
  · obtain ⟨item, hitem, hdecode⟩ := Json.exists_of_tableOf htable a ha
    exact ⟨item, by omega, hdecode⟩

/-! ## The parts of a document -/

namespace Descriptor

variable {names : List String} {r : Record Json} {name : String}

theorem levels_lt_of_required (h : j.record names = .ok r) {d : Descriptor}
    (hd : r.required name (r.field name (ofJson false)) = .ok d) : d.toJson.levels < j.levels := by
  obtain ⟨value, hvalue, hdecode⟩ := Json.exists_of_required h hd
  exact Nat.lt_of_le_of_lt (levels_toJson_of_ofJson hdecode) hvalue

theorem levels_lt_of_optional (h : j.record names = .ok r) {ds : List Descriptor}
    (hds : Record.optional [] (r.field name (Json.listOf (ofJson false))) = .ok ds) :
    ∀ d ∈ ds, d.toJson.levels < j.levels := by
  intro d hd
  obtain ⟨value, hvalue, hdecode⟩ := Json.exists_of_optional_listOf h hds d hd
  have hle := levels_toJson_of_ofJson hdecode
  omega

end Descriptor

theorem RawProperty.levels_revisions_lt {p : RawProperty} (h : RawProperty.ofJson j = .ok p) :
    ∀ d ∈ p.revisions, d.toJson.levels < j.levels := by
  simp only [RawProperty.ofJson, bind_eq_ok_iff, pure_eq_ok_iff] at h
  obtain ⟨r, hr, _, _, type, htype, _, _, previous, hprevious, _, _, rfl⟩ := h
  exact List.forall_mem_cons.2 ⟨Descriptor.levels_lt_of_required hr htype,
    Descriptor.levels_lt_of_optional hr hprevious⟩

theorem RawAttribute.levels_revisions_lt {a : RawAttribute} (h : RawAttribute.ofJson j = .ok a) :
    ∀ d ∈ a.revisions, d.toJson.levels < j.levels := by
  simp only [RawAttribute.ofJson, bind_eq_ok_iff, pure_eq_ok_iff] at h
  obtain ⟨r, hr, _, _, type, htype, previous, hprevious, _, _, rfl⟩ := h
  exact List.forall_mem_cons.2 ⟨Descriptor.levels_lt_of_required hr htype,
    Descriptor.levels_lt_of_optional hr hprevious⟩

theorem Resource.levels_descriptors_le {r : Resource} (h : Resource.ofJson j = .ok r) :
    ∀ d ∈ r.descriptors, d.toJson.levels + 3 ≤ j.levels := by
  simp only [Resource.ofJson, bind_eq_ok_iff, pure_eq_ok_iff] at h
  obtain ⟨record, hrecord, _, _, _, _, _, _, _, _, attributes, hattributes, properties, hproperties,
    rfl⟩ := h
  rw [Resource.descriptors, List.forall_mem_append, List.forall_mem_flatMap,
    List.forall_mem_flatMap]
  constructor
  · intro a ha d hd
    obtain ⟨value, hvalue, hdecode⟩ := Json.exists_of_optional_tableOf hrecord hattributes a ha
    have hlt := RawAttribute.levels_revisions_lt hdecode d hd
    omega
  · intro p hp d hd
    obtain ⟨value, hvalue, hdecode⟩ := Json.exists_of_optional_tableOf hrecord hproperties p hp
    have hlt := RawProperty.levels_revisions_lt hdecode d hd
    omega

theorem TypeDefinition.levels_descriptors_le {t : TypeDefinition}
    (h : TypeDefinition.ofJson j = .ok t) :
    ∀ d ∈ t.descriptors, d.toJson.levels + 3 ≤ j.levels := by
  simp only [TypeDefinition.ofJson, bind_eq_ok_iff, pure_eq_ok_iff] at h
  obtain ⟨record, hrecord, _, _, _, _, _, _, properties, hproperties, rfl⟩ := h
  rw [TypeDefinition.descriptors, List.forall_mem_flatMap]
  intro p hp d hd
  obtain ⟨value, hvalue, hdecode⟩ := Json.exists_of_optional_tableOf hrecord hproperties p hp
  have hlt := RawProperty.levels_revisions_lt hdecode d hd
  omega

/-! ## Databases -/

namespace Document

variable {d : Document}

theorem levels_descriptors_of_resource (h : Document.ofJson j = .ok d) :
    ∀ r ∈ d.resources.values, ∀ e ∈ r.descriptors, e.toJson.levels + 5 ≤ j.levels := by
  simp only [Document.ofJson, bind_eq_ok_iff, pure_eq_ok_iff] at h
  obtain ⟨record, hrecord, _, _, _, _, resources, hresources, _, _, _, _, _, _, rfl⟩ := h
  intro r hr e he
  obtain ⟨value, hvalue, hdecode⟩ := Json.exists_of_optional_tableOf hrecord hresources r hr
  have hle := Resource.levels_descriptors_le hdecode e he
  omega

theorem levels_descriptors_of_typeDefinition (h : Document.ofJson j = .ok d) :
    ∀ t ∈ d.typeDefinitions.values, ∀ e ∈ t.descriptors, e.toJson.levels + 5 ≤ j.levels := by
  simp only [Document.ofJson, bind_eq_ok_iff, pure_eq_ok_iff] at h
  obtain ⟨record, hrecord, _, _, _, _, _, _, definitions, hdefinitions, _, _, _, _, rfl⟩ := h
  intro t ht e he
  obtain ⟨value, hvalue, hdecode⟩ := Json.exists_of_optional_tableOf hrecord hdefinitions t ht
  have hle := TypeDefinition.levels_descriptors_le hdecode e he
  omega

/-- Filling in ids leaves the descriptors of a resource as they are. -/
theorem exists_resource_of_withIds {r : Resource} (h : r ∈ d.withIds.resources.values) :
    ∃ r' ∈ d.resources.values, r.descriptors = r'.descriptors := by
  obtain ⟨k, hk⟩ := Table.mem_values_iff.1 h
  rw [withIds, Table.get?_mapWithName, Option.map_eq_some_iff] at hk
  obtain ⟨r', hr', rfl⟩ := hk
  exact ⟨r', Table.mem_values_iff.2 ⟨k, hr'⟩, rfl⟩

theorem exists_typeDefinition_of_withIds {t : TypeDefinition}
    (h : t ∈ d.withIds.typeDefinitions.values) :
    ∃ t' ∈ d.typeDefinitions.values, t.descriptors = t'.descriptors := by
  obtain ⟨k, hk⟩ := Table.mem_values_iff.1 h
  rw [withIds, Table.get?_mapWithName, Option.map_eq_some_iff] at hk
  obtain ⟨t', ht', rfl⟩ := hk
  exact ⟨t', Table.mem_values_iff.2 ⟨k, ht'⟩, rfl⟩

end Document

/-- The descriptors of a database that loads from a text stay five levels below the limit. -/
theorem Database.levels_descriptors_of_ofText {text : String} {db : Database}
    (h : ofText text = .ok db) :
    ∀ e ∈ db.descriptors, e.toJson.levels + 5 ≤ Json.nestingLimit := by
  obtain ⟨d, hd, rfl⟩ := exists_ofJson_of_ofText h
  have hlimit := Json.levels_read_le text
  rw [descriptors, List.forall_mem_append, List.forall_mem_flatMap, List.forall_mem_flatMap]
  constructor
  · intro t ht e he
    obtain ⟨t', ht', hdescriptors⟩ := Document.exists_typeDefinition_of_withIds ht
    have hle := Document.levels_descriptors_of_typeDefinition hd t' ht' e (hdescriptors ▸ he)
    omega
  · intro r hr e he
    obtain ⟨r', hr', hdescriptors⟩ := Document.exists_resource_of_withIds hr
    have hle := Document.levels_descriptors_of_resource hd r' hr' e (hdescriptors ▸ he)
    omega

end ConstructSchema
