import ConstructSchema.Proofs.Descriptor.RoundTrip
import ConstructSchema.Proofs.Json.Nesting
import ConstructSchema.Schema.Assembly

/-!
Specification documents, encoded and decoded.

Every part of a document is a record whose encoding writes all its fields, so each decoder undoes
its encoder (`ofJson_toJson`), in whatever order the members of the objects stand. The document of
a database has all its ids (`filledIn_withIds`), and filling in ids a second time changes nothing
(`withIds_withIds`), so a database that is encoded, decoded and built again is the same database
(`reload_encoded`).
-/

namespace ConstructSchema

open Json (OrderFree Arranges Textual)

/-! ## The order of members -/

theorem Relation.orderFree : OrderFree Relation.ofJson := by
  intro members members' h hnodup a ha
  simp only [Relation.ofJson, Json.record_object, ok_bind, Record.required_named,
    Record.field_named_perm h hnodup] at ha ⊢
  exact Json.checkFields_bind_perm h ha

theorem Service.orderFree : OrderFree Service.ofJson := by
  intro members members' h hnodup a ha
  simp only [Service.ofJson, Json.record_object, ok_bind, Record.required_named,
    Record.field_named_perm h hnodup] at ha ⊢
  exact Json.checkFields_bind_perm h ha

theorem RawProperty.orderFree : OrderFree RawProperty.ofJson := by
  intro members members' h hnodup a ha
  simp only [RawProperty.ofJson, Json.record_object, ok_bind, Record.required_named,
    Record.field_named_perm h hnodup] at ha ⊢
  exact Json.checkFields_bind_perm h ha

theorem RawAttribute.orderFree : OrderFree RawAttribute.ofJson := by
  intro members members' h hnodup a ha
  simp only [RawAttribute.ofJson, Json.record_object, ok_bind, Record.required_named,
    Record.field_named_perm h hnodup] at ha ⊢
  exact Json.checkFields_bind_perm h ha

theorem Resource.orderFree : OrderFree Resource.ofJson := by
  intro members members' h hnodup a ha
  simp only [Resource.ofJson, Json.record_object, ok_bind, Record.required_named,
    Record.field_named_perm h hnodup] at ha ⊢
  exact Json.checkFields_bind_perm h ha

theorem TypeDefinition.orderFree : OrderFree TypeDefinition.ofJson := by
  intro members members' h hnodup a ha
  simp only [TypeDefinition.ofJson, Json.record_object, ok_bind, Record.required_named,
    Record.field_named_perm h hnodup] at ha ⊢
  exact Json.checkFields_bind_perm h ha

theorem Document.orderFree : OrderFree Document.ofJson := by
  intro members members' h hnodup a ha
  simp only [Document.ofJson, Json.record_object, ok_bind, Record.field_named_perm h hnodup]
    at ha ⊢
  exact Json.checkFields_bind_perm h ha

/-! ## Encoded documents -/

section

variable {f : Json → Json} (hf : Arranges f)
include hf

theorem Descriptor.listOf_arranged (ds : List Descriptor) :
    Json.listOf (Descriptor.ofJson false) (f (.array (Descriptor.toJsonList ds))) = .ok ds := by
  rw [Descriptor.toJsonList_eq_map]
  exact Json.listOf_arranged hf fun d _ => Descriptor.ofJson_toJson hf d false

theorem Relation.ofJson_toJson (r : Relation) : Relation.ofJson (f r.toJson) = .ok r := by
  refine Relation.orderFree.decode_arranged hf (by simp) ?_
  simp [Relation.ofJson, Json.checkFields_named_eq_ok, hf.string]

theorem Service.ofJson_toJson (s : Service) : Service.ofJson (f s.toJson) = .ok s := by
  refine Service.orderFree.decode_arranged hf (by simp) ?_
  simp [Service.ofJson, Json.checkFields_named_eq_ok, hf.string]

theorem RawProperty.ofJson_toJson (p : RawProperty) : RawProperty.ofJson (f p.toJson) = .ok p := by
  refine RawProperty.orderFree.decode_arranged hf (by simp) ?_
  simp [RawProperty.ofJson, Json.checkFields_named_eq_ok, Descriptor.ofJson_toJson hf,
    Descriptor.listOf_arranged hf, Json.nullable_flag_arranged hf, Json.nullable_text_arranged hf]

theorem RawAttribute.ofJson_toJson (a : RawAttribute) :
    RawAttribute.ofJson (f a.toJson) = .ok a := by
  refine RawAttribute.orderFree.decode_arranged hf (by simp) ?_
  simp [RawAttribute.ofJson, Json.checkFields_named_eq_ok, Descriptor.ofJson_toJson hf,
    Descriptor.listOf_arranged hf, Json.nullable_text_arranged hf]

theorem Resource.ofJson_toJson (r : Resource) : Resource.ofJson (f r.toJson) = .ok r := by
  have hattributes := Json.tableOf_arranged hf (RawAttribute.ofJson_toJson hf) r.attributes
  have hproperties := Json.tableOf_arranged hf (RawProperty.ofJson_toJson hf) r.properties
  refine Resource.orderFree.decode_arranged hf (by simp) ?_
  simp [Resource.ofJson, Json.checkFields_named_eq_ok, hf.string, hattributes, hproperties]

theorem TypeDefinition.ofJson_toJson (t : TypeDefinition) :
    TypeDefinition.ofJson (f t.toJson) = .ok t := by
  have hproperties := Json.tableOf_arranged hf (RawProperty.ofJson_toJson hf) t.properties
  refine TypeDefinition.orderFree.decode_arranged hf (by simp) ?_
  simp [TypeDefinition.ofJson, Json.checkFields_named_eq_ok, hf.string, hproperties]

theorem Document.ofJson_toJson (d : Document) : Document.ofJson (f d.toJson) = .ok d := by
  have hservices := Json.tableOf_arranged hf (Service.ofJson_toJson hf) d.services
  have hresources := Json.tableOf_arranged hf (Resource.ofJson_toJson hf) d.resources
  have hdefinitions := Json.tableOf_arranged hf (TypeDefinition.ofJson_toJson hf) d.typeDefinitions
  have hedges (edges : List Relation) :=
    Json.listOf_arranged hf fun r (_ : r ∈ edges) => Relation.ofJson_toJson hf r
  refine Document.orderFree.decode_arranged hf (by simp) ?_
  simp [Document.ofJson, Json.checkFields_named_eq_ok, hservices, hresources, hdefinitions, hedges]

end

/-! ## Textual encodings -/

namespace Descriptor

mutual

theorem textual_toJson (d : Descriptor) : Textual d.toJson := by
  cases d with
  | ref id => exact .object (by simp [Textual.string, Textual.object])
  | array element | map element =>
    exact .object (by simpa [Textual.string] using textual_toJson element)
  | union types =>
    exact .object (by simpa [Textual.string] using .array (textual_toJsonList types))
  | bare container => cases container <;> exact .object (by simp [Textual.string, Textual.null])
  | _ => exact .object (by simp [Textual.string])

theorem textual_toJsonList (ds : List Descriptor) : ∀ j ∈ toJsonList ds, Textual j := by
  cases ds with
  | nil => simp [toJsonList]
  | cons first rest =>
    exact List.forall_mem_cons.2 ⟨textual_toJson first, textual_toJsonList rest⟩

end

end Descriptor

theorem Json.textual_ofOption {α : Type} {encode : α → Json} (h : ∀ a, Textual (encode a))
    (o : Option α) : Textual (.ofOption encode o) := by
  cases o with
  | none => exact .null
  | some a => exact h a

theorem Relation.textual_toJson (r : Relation) : Textual r.toJson :=
  .object (by simp [Textual.string])

theorem Service.textual_toJson (s : Service) : Textual s.toJson :=
  .object (by simp [Textual.string])

theorem RawProperty.textual_toJson (p : RawProperty) : Textual p.toJson :=
  .object (by simp [Descriptor.textual_toJson, Textual.array (Descriptor.textual_toJsonList _),
    Json.textual_ofOption Textual.bool, Json.textual_ofOption Textual.string])

theorem RawAttribute.textual_toJson (a : RawAttribute) : Textual a.toJson :=
  .object (by simp [Descriptor.textual_toJson, Textual.array (Descriptor.textual_toJsonList _),
    Json.textual_ofOption Textual.string])

theorem Resource.textual_toJson (r : Resource) : Textual r.toJson :=
  .object (by simp [Textual.string, Textual.ofTable RawAttribute.textual_toJson,
    Textual.ofTable RawProperty.textual_toJson])

theorem TypeDefinition.textual_toJson (t : TypeDefinition) : Textual t.toJson :=
  .object (by simp [Textual.string, Textual.ofTable RawProperty.textual_toJson])

theorem Document.textual_toJson (d : Document) : Textual d.toJson := by
  have hedges (edges : List Relation) : Textual (.array (edges.map Relation.toJson)) :=
    .arrayOf fun r _ => r.textual_toJson
  exact .object (by simp [hedges, Textual.ofTable Service.textual_toJson,
    Textual.ofTable Resource.textual_toJson, Textual.ofTable TypeDefinition.textual_toJson])

/-- The text of a document loads as the database of the document, if it nests within the limit. -/
theorem Database.ofText_pretty {d : Document}
    (h : Json.nesting d.toJson.pretty ≤ Json.nestingLimit) :
    ofText d.toJson.pretty = .ok (ofDocument d) := by
  rw [ofText, d.textual_toJson.decodeText_pretty h (Document.ofJson_toJson Json.arranges_id d)]

/-! ## Databases, built again -/

@[simp] theorem idOr_idOr (id name : String) : idOr (idOr id name) name = idOr id name := by
  unfold idOr
  split <;> simp_all

/-- Ids that are filled in stay. -/
@[simp] theorem Document.withIds_withIds (d : Document) : d.withIds.withIds = d.withIds := by
  simp [Document.withIds, Table.ext_iff, Function.comp_def]

/-- The document `filled` is the document `raw` with its ids filled in: an entity without an id has
its name in the table as its id, and all else is as it was. -/
structure Document.FilledIn (raw filled : Document) : Prop where
  services : ∀ name, filled.services.get? name =
    (raw.services.get? name).map fun s => { s with id := if s.id = "" then name else s.id }
  resources : ∀ name, filled.resources.get? name =
    (raw.resources.get? name).map fun r => { r with id := if r.id = "" then name else r.id }
  typeDefinitions : ∀ name, filled.typeDefinitions.get? name =
    (raw.typeDefinitions.get? name).map fun t => { t with id := if t.id = "" then name else t.id }
  hasResource : filled.hasResource = raw.hasResource
  usesType : filled.usesType = raw.usesType

theorem idOr_eq (id name : String) : idOr id name = if id = "" then name else id := by
  simp [idOr]

theorem Document.filledIn_withIds (d : Document) : d.FilledIn d.withIds where
  services name := by simp [withIds, idOr_eq]
  resources name := by simp [withIds, idOr_eq]
  typeDefinitions name := by simp [withIds, idOr_eq]
  hasResource := rfl
  usesType := rfl

namespace Database

theorem ofDocument_withIds (d : Document) : ofDocument d.withIds = ofDocument d := by
  simp only [ofDocument, Document.withIds_withIds]

/-- A database that loads is that of the document its text decodes to. -/
theorem exists_ofJson_of_ofText {text : String} {db : Database} (h : ofText text = .ok db) :
    ∃ d, Document.ofJson (Json.read text).1 = .ok d ∧ db = ofDocument d := by
  rw [ofText, Json.decodeText] at h
  cases hd : Document.ofJson (Json.read text).1 with
  | error fault => simp [hd] at h
  | ok d =>
    refine ⟨d, rfl, ?_⟩
    cases hcomplete : (Json.read text).2 with
    | false => simp [hd, hcomplete] at h
    | true =>
      simp only [hd, hcomplete, if_true, Except.ok.injEq] at h
      exact h.symm

/-- **Encoding loses nothing.** Documents and their parts decode from their encodings to what they
were, at every depth and with the members of all objects in any order, and an encoded descriptor
shows its kind. A database that loads from a text has the document of the text with its ids filled
in, and this document, encoded, decoded and built into a database again, gives the same document,
the same answers to all lookups and the same outcome. -/
theorem reload_encoded {f : Json → Json} (hf : Arranges f) :
    (∀ d : Document, Document.ofJson (f d.toJson) = .ok d) ∧
    (∀ r : Resource, Resource.ofJson (f r.toJson) = .ok r) ∧
    (∀ t : TypeDefinition, TypeDefinition.ofJson (f t.toJson) = .ok t) ∧
    (∀ s : Service, Service.ofJson (f s.toJson) = .ok s) ∧
    (∀ (d : Descriptor) (nested : Bool), Descriptor.ofJson nested (f d.toJson) = .ok d) ∧
    (∀ d : Descriptor, ∃ members, f d.toJson = .object members ∧
      members.lookup "type" = some (.string d.kind.name)) ∧
    ∀ text db, ofText text = .ok db →
      (∃ raw, Document.ofJson (Json.read text).1 = .ok raw ∧ raw.FilledIn db.document) ∧
      ∃ d again, Document.ofJson (f db.document.toJson) = .ok d ∧ ofDocument d = again ∧
        again = db ∧ again.document = db.document ∧
        (∀ r, again.serviceOf r = db.serviceOf r) ∧
        (∀ t, again.parentOf t = db.parentOf t) ∧
        (∀ id, again.definitionName? id = db.definitionName? id) ∧
        again.dangling = db.dangling ∧
        ∀ c, again.schemas c = db.schemas c := by
  refine ⟨Document.ofJson_toJson hf, Resource.ofJson_toJson hf, TypeDefinition.ofJson_toJson hf,
    Service.ofJson_toJson hf, Descriptor.ofJson_toJson hf, Descriptor.lookup_type_toJson hf, ?_⟩
  intro text db hload
  obtain ⟨loaded, hloaded, rfl⟩ := exists_ofJson_of_ofText hload
  refine ⟨⟨loaded, hloaded, loaded.filledIn_withIds⟩, ?_⟩
  have hagain : ofDocument (ofDocument loaded).document = ofDocument loaded :=
    ofDocument_withIds loaded
  refine ⟨_, _, Document.ofJson_toJson hf _, rfl, hagain, ?_⟩
  rw [hagain]
  exact ⟨rfl, fun _ => rfl, fun _ => rfl, fun _ => rfl, rfl, fun _ => rfl⟩

/-- A service with a resource that uses a type definition, as a document without ids. -/
def bucketDocument : Document where
  services := Table.ofList [("s", ⟨"", "aws-s3", "s3", "S3", "AWS::S3"⟩)]
  resources := Table.ofList [("b", ⟨"", "Bucket", "AWS::S3::Bucket",
    Table.ofList [("Arn", ⟨.string, [], some "The \"name\"\n"⟩)],
    Table.ofList [("Rules", ⟨.array (.ref "t"), some true, [], none⟩)]⟩)]
  typeDefinitions := Table.ofList [
    ("t", ⟨"", "Rule", Table.ofList [("Next", ⟨.union [.ref "t", .null], none, [], none⟩)]⟩)]
  hasResource := [⟨"s", "b"⟩]
  usesType := [⟨"b", "t"⟩]

theorem ofText_bucketDocument :
    ofText bucketDocument.toJson.pretty = .ok (ofDocument bucketDocument) := by
  refine ofText_pretty ?_
  rw [bucketDocument.textual_toJson.nesting_pretty]
  decide

/-- The bucket has its name in the table as its id once it is loaded. -/
theorem reload_encoded_bucket :
    Arranges Json.sorted ∧
    ofText bucketDocument.toJson.pretty = .ok (ofDocument bucketDocument) ∧
    (∃ raw, Document.ofJson (Json.read bucketDocument.toJson.pretty).1 = .ok raw ∧
      raw.FilledIn (ofDocument bucketDocument).document) ∧
    (bucketDocument.resources.get? "b").map (·.id) = some "" ∧
    ((ofDocument bucketDocument).document.resources.get? "b").map (·.id) = some "b" ∧
    ∃ d, Document.ofJson (ofDocument bucketDocument).document.toJson.sorted = .ok d ∧
      ofDocument d = ofDocument bucketDocument := by
  obtain ⟨_, _, _, _, _, _, hreload⟩ := reload_encoded Json.arranges_sorted
  obtain ⟨hfilled, d, again, hd, rfl, hagain, _⟩ := hreload _ _ ofText_bucketDocument
  exact ⟨Json.arranges_sorted, ofText_bucketDocument, hfilled, by decide, by decide, d, hd, hagain⟩

end Database

end ConstructSchema
