import ConstructSchema.Proofs.Json.Nesting
import ConstructSchema.Proofs.Json.Order
import ConstructSchema.Schema.Json

/-!
The schemas, written and read back.

Every part of a schema is encoded as a textual value (`textual_toJson`) from which it decodes
(`ofJson_toJson`), so a schema whose text nests within the limit is read back as it was
(`read_render`).
-/

namespace ConstructSchema

open Json (Textual)

/-! ## Tables -/

section

variable {α : Type} {encode : α → Json} {decode : Json → Except Fault α}

theorem Json.tableOf_ofTable (h : ∀ a, decode (encode a) = .ok a) (t : Table α) :
    Json.tableOf decode (.ofTable encode t) = .ok t :=
  Json.tableOf_arranged Json.arranges_id h t

end

/-! ## Value types -/

theorem Primitive.ofJson_toJson (p : Primitive) : Primitive.ofJson p.toJson = .ok p := by
  cases p <;> rfl

namespace ValueType

mutual

theorem ofJson_toJson (v : ValueType) : ofJson v.toJson = .ok v := by
  cases v with
  | primitive kind => simp [toJson, ofJson, Primitive.ofJson_toJson, Except.map]
  | listOf element => simp [toJson, ofJson, ofJson_toJson element, Except.map]
  | mapOf element => simp [toJson, ofJson, ofJson_toJson element, Except.map]
  | named name => simp [toJson, ofJson, Except.map]
  | unionOf members => simp [toJson, ofJson, ofJsonList_toJsonList members, Except.map]

theorem ofJsonList_toJsonList (vs : List ValueType) : ofJsonList (toJsonList vs) = .ok vs := by
  cases vs with
  | nil => rfl
  | cons first rest =>
    rw [toJsonList, ofJsonList, ofJson_toJson first, ofJsonList_toJsonList rest]
    rfl

end

mutual

theorem textual_toJson (v : ValueType) : Textual v.toJson := by
  cases v with
  | primitive kind => exact .object (by simpa [Primitive.toJson] using .string _)
  | listOf element => exact .object (by simpa using textual_toJson element)
  | mapOf element => exact .object (by simpa using textual_toJson element)
  | named name => exact .object (by simpa using .string name)
  | unionOf members => exact .object (by simpa using .array (textual_toJsonList members))

theorem textual_toJsonList (vs : List ValueType) : ∀ j ∈ toJsonList vs, Textual j := by
  cases vs with
  | nil => simp [toJsonList]
  | cons first rest =>
    rw [toJsonList, List.forall_mem_cons]
    exact ⟨textual_toJson first, textual_toJsonList rest⟩

end

end ValueType

/-! ## Bindings -/

theorem Binding.ofJson_toJson (l : Language) (b : Binding) :
    Binding.ofJson l (b.toJson l) = .ok b := by
  cases l <;>
    simp [Binding.ofJson, Binding.toJson, Language.locationKey, Json.checkFields_named_eq_ok]

theorem GoBinding.ofJson_toJson (b : GoBinding) : GoBinding.ofJson b.toJson = .ok b := by
  simp [GoBinding.ofJson, GoBinding.toJson, Json.checkFields_named_eq_ok]

theorem Bindings.ofJson_toJson (b : Bindings) : Bindings.ofJson b.toJson = .ok b := by
  simp [Bindings.ofJson, Bindings.toJson, Json.checkFields_named_eq_ok, Binding.ofJson_toJson,
    GoBinding.ofJson_toJson]

/-! ## Entries -/

theorem PropertySpec.ofJson_toJson (p : PropertySpec) : PropertySpec.ofJson p.toJson = .ok p := by
  obtain ⟨name, valueType, required⟩ := p
  cases required <;>
    simp [PropertySpec.ofJson, PropertySpec.toJson, Json.checkFields_named_eq_ok,
      ValueType.ofJson_toJson, Json.nullable, Json.flag, Except.map]

theorem AttributeSpec.ofJson_toJson (a : AttributeSpec) :
    AttributeSpec.ofJson a.toJson = .ok a := by
  simp [AttributeSpec.ofJson, AttributeSpec.toJson, Json.checkFields_named_eq_ok,
    ValueType.ofJson_toJson]

theorem PropertyTypeEntry.ofJson_toJson (e : PropertyTypeEntry) :
    PropertyTypeEntry.ofJson e.toJson = .ok e := by
  have hproperties := Json.tableOf_ofTable PropertySpec.ofJson_toJson e.properties
  simp [PropertyTypeEntry.ofJson, PropertyTypeEntry.toJson, Json.checkFields_named_eq_ok,
    Bindings.ofJson_toJson, hproperties]

theorem ResourceEntry.ofJson_toJson (e : ResourceEntry) :
    ResourceEntry.ofJson e.toJson = .ok e := by
  have hattributes := Json.tableOf_ofTable AttributeSpec.ofJson_toJson e.attributes
  have hproperties := Json.tableOf_ofTable PropertySpec.ofJson_toJson e.properties
  simp [ResourceEntry.ofJson, ResourceEntry.toJson, Json.checkFields_named_eq_ok,
    Bindings.ofJson_toJson, hattributes, hproperties]

/-! ## Textual encodings -/

theorem Binding.textual_toJson (l : Language) (b : Binding) : Textual (b.toJson l) :=
  .object (by simp [Textual.string])

theorem GoBinding.textual_toJson (b : GoBinding) : Textual b.toJson :=
  .object (by simp [Textual.string])

theorem Bindings.textual_toJson (b : Bindings) : Textual b.toJson :=
  .object (by simp [Binding.textual_toJson, GoBinding.textual_toJson])

theorem PropertySpec.textual_toJson (p : PropertySpec) : Textual p.toJson := by
  obtain ⟨name, valueType, required⟩ := p
  cases required <;>
    exact .object (by simp [Textual.string, Textual.bool, ValueType.textual_toJson])

theorem AttributeSpec.textual_toJson (a : AttributeSpec) : Textual a.toJson :=
  .object (by simp [Textual.string, ValueType.textual_toJson])

theorem PropertyTypeEntry.textual_toJson (e : PropertyTypeEntry) : Textual e.toJson :=
  .object (by simp [Bindings.textual_toJson, Textual.ofTable PropertySpec.textual_toJson])

theorem ResourceEntry.textual_toJson (e : ResourceEntry) : Textual e.toJson :=
  .object (by simp [Bindings.textual_toJson, Textual.ofTable PropertySpec.textual_toJson,
    Textual.ofTable AttributeSpec.textual_toJson])

/-! ## Texts -/

theorem PropertyTypeSchema.textual_toJson (s : PropertyTypeSchema) :
    Textual (PropertyTypeSchema.toJson s) :=
  Textual.ofTable PropertyTypeEntry.textual_toJson s

theorem ResourceSchema.textual_toJson (s : ResourceSchema) : Textual (ResourceSchema.toJson s) :=
  Textual.ofTable ResourceEntry.textual_toJson s

/-- A property type schema is read back from its text. -/
theorem PropertyTypeSchema.read_render {s : PropertyTypeSchema}
    (h : Json.nesting (PropertyTypeSchema.render s) ≤ Json.nestingLimit) :
    PropertyTypeSchema.read (PropertyTypeSchema.render s) = .ok s :=
  (PropertyTypeSchema.textual_toJson s).decodeText_pretty h
    (Json.tableOf_ofTable PropertyTypeEntry.ofJson_toJson s)

/-- A resource schema is read back from its text. -/
theorem ResourceSchema.read_render {s : ResourceSchema}
    (h : Json.nesting (ResourceSchema.render s) ≤ Json.nestingLimit) :
    ResourceSchema.read (ResourceSchema.render s) = .ok s :=
  (ResourceSchema.textual_toJson s).decodeText_pretty h
    (Json.tableOf_ofTable ResourceEntry.ofJson_toJson s)

end ConstructSchema
