import ConstructSchema.Proofs.Schema.Agreement
import ConstructSchema.Proofs.Schema.Files
import ConstructSchema.Proofs.Schema.RoundTrip
import ConstructSchema.Proofs.Spec.Reordered

/-!
The one form of a written schema.

A schema is a table of entries that hold tables, and a table is written with its names in ascending
order of their bytes, whatever order they came in (`isCanonical_render`). So what is written for a
text depends on the database it holds only, and two texts that differ in the order of members end in
the same failure or in the same bytes (`generation_sameButOrder`).
-/

namespace ConstructSchema

namespace Json

/-! ## Ascending keys -/

/-- An object whose names ascend strictly in the order of their bytes. -/
def KeysAscend (j : Json) : Prop :=
  ∃ members, j = .object members ∧ ((members.map (·.1)).map bytes).Pairwise (· < ·)

/-- The object of a table has its names in order. -/
theorem keysAscend_ofTable {α : Type} (encode : α → Json) (t : Table α) :
    KeysAscend (.ofTable encode t) := by
  refine ⟨_, rfl, ?_⟩
  have hnames := t.pairwise_bytes
  rw [Table.names] at hnames
  simpa [List.map_map, Function.comp_def] using hnames

/-- A text of a schema whose keys ascend: those of the schema itself, and those of the tables that
its entries hold. -/
def IsCanonical (tables : List String) (text : String) : Prop :=
  ∃ entries, valueOf text = .object entries ∧ KeysAscend (.object entries) ∧
    ∀ e ∈ entries, ∃ members, e.2 = .object members ∧
      (∀ name ∈ tables, name ∈ members.map (·.1)) ∧
      ∀ m ∈ members, m.1 = "attributes" ∨ m.1 = "properties" → KeysAscend m.2

end Json

theorem PropertyTypeSchema.isCanonical_render (s : PropertyTypeSchema) :
    Json.IsCanonical ["properties"] (PropertyTypeSchema.render s) := by
  refine ⟨_, (PropertyTypeSchema.textual_toJson s).valueOf_pretty,
    Json.keysAscend_ofTable _ s, ?_⟩
  rw [List.forall_mem_map]
  intro e _
  refine ⟨_, rfl, by simp, ?_⟩
  simp [Json.keysAscend_ofTable]

theorem ResourceSchema.isCanonical_render (s : ResourceSchema) :
    Json.IsCanonical ["attributes", "properties"] (ResourceSchema.render s) := by
  refine ⟨_, (ResourceSchema.textual_toJson s).valueOf_pretty,
    Json.keysAscend_ofTable _ s, ?_⟩
  rw [List.forall_mem_map]
  intro e _
  refine ⟨_, rfl, by simp, ?_⟩
  simp [Json.keysAscend_ofTable]

namespace Schemas

/-- These are the texts of schemas, and the files hold them after each write that succeeds. -/
structure WrittenAs (s : Schemas) (types resources : String) : Prop where
  types_eq : PropertyTypeSchema.render s.propertyTypes = types
  resources_eq : ResourceSchema.render s.resources = resources
  files : ∀ directory t paths after, s.write FileTree.system directory t = (.ok paths, after) →
    after.readText (Path.join directory propertyTypesFile) = .ok types ∧
    after.readText (Path.join directory resourcesFile) = .ok resources

theorem writtenAs_render (s : Schemas) :
    s.WrittenAs (PropertyTypeSchema.render s.propertyTypes)
      (ResourceSchema.render s.resources) where
  types_eq := rfl
  resources_eq := rfl
  files directory t paths after hwrite := by
    have hstands := standsIn_of_write hwrite
    exact ⟨hstands.propertyTypes, hstands.resources⟩

end Schemas

namespace Database

variable {text text' : String} {db db' : Database}

/-- **The order of members does not matter.** If one of two texts that differ in nothing else loads,
so does the other, as the same database. Both then end in the same failure or are written as the
same two texts, byte for byte, with the keys of the schemas and of the tables in them ascending. -/
theorem generation_sameButOrder (h : Json.SameButOrder text text') (c : Conventions) :
    (∀ db, ofText text = .ok db ↔ ofText text' = .ok db) ∧
    (∀ path db, ofFile path text = .ok db ↔ ofFile path text' = .ok db) ∧
    ∀ db db' : Database, db.HeldBy text → db'.HeldBy text' →
      (∃ failure, db.schemas c = .error failure ∧ db'.schemas c = .error failure) ∨
      ∃ (s s' : Schemas) (types resources : String),
        db.schemas c = .ok s ∧ db'.schemas c = .ok s' ∧
        s.WrittenAs types resources ∧ s'.WrittenAs types resources ∧
        Json.IsCanonical ["properties"] types ∧
        Json.IsCanonical ["attributes", "properties"] resources := by
  refine ⟨fun db => ofText_sameButOrder h, fun path db => ofFile_sameButOrder h, ?_⟩
  intro db db' hdb hdb'
  have hsame := schemas_eq_of_document_eq (hdb.document_eq h hdb') c
  cases hs : db.schemas c with
  | error failure => exact Or.inl ⟨failure, rfl, hsame ▸ hs⟩
  | ok s =>
    exact Or.inr ⟨s, s, _, _, rfl, hsame ▸ hs, s.writtenAs_render, s.writtenAs_render,
      PropertyTypeSchema.isCanonical_render _, ResourceSchema.isCanonical_render _⟩

/-- A service and the resource that it owns, as a value. -/
def ownedBucket : Json :=
  .object [
    ("service", .object [("s", .object [("name", .string "aws-s3"), ("capitalized", .string "S3"),
      ("cloudFormationNamespace", .string "AWS::S3")])]),
    ("resource", .object [("b", .object [("name", .string "Bucket"),
      ("cloudFormationType", .string "AWS::S3::Bucket")])]),
    ("hasResource", .array [.object [("from", .string "s"), ("to", .string "b")]])]

/-- The same value with the members of all objects from the last to the first. -/
def ownedBucketReversed : Json :=
  .object [
    ("hasResource", .array [.object [("to", .string "b"), ("from", .string "s")]]),
    ("resource", .object [("b", .object [("cloudFormationType", .string "AWS::S3::Bucket"),
      ("name", .string "Bucket")])]),
    ("service", .object [("s", .object [("cloudFormationNamespace", .string "AWS::S3"),
      ("capitalized", .string "S3"), ("name", .string "aws-s3")])])]

theorem ownedBucket_reordered : ownedBucket.Reordered ownedBucketReversed := by
  have hservice := @Json.Reordered.reverse [("name", .string "aws-s3", .string "aws-s3"),
    ("capitalized", .string "S3", .string "S3"),
    ("cloudFormationNamespace", .string "AWS::S3", .string "AWS::S3")] (by decide)
    (by simp [Json.Reordered.string])
  have hresource := @Json.Reordered.reverse [("name", .string "Bucket", .string "Bucket"),
    ("cloudFormationType", .string "AWS::S3::Bucket", .string "AWS::S3::Bucket")] (by decide)
    (by simp [Json.Reordered.string])
  have hedge := @Json.Reordered.reverse [("from", .string "s", .string "s"),
    ("to", .string "b", .string "b")] (by decide) (by simp [Json.Reordered.string])
  have hservices := @Json.Reordered.reverse [("s", _, _)] (by simp) (by simpa using hservice)
  have hresources := @Json.Reordered.reverse [("b", _, _)] (by simp) (by simpa using hresource)
  have hedges := @Json.Reordered.array [(_, _)] (by simpa using hedge)
  exact @Json.Reordered.reverse [("service", _, _), ("resource", _, _), ("hasResource", _, _)]
    (by decide) (by simpa using ⟨hservices, hresources, hedges⟩)

theorem ownedBucket_textual : Json.Textual ownedBucket :=
  .object (by simp [Json.Textual.object, Json.Textual.array, Json.Textual.string])

/-- The two values as texts, the second with a line break behind it. -/
theorem ownedBucket_sameButOrder :
    Json.SameButOrder ownedBucket.pretty (ownedBucketReversed.pretty ++ "\n") := by
  have htextual : Json.Textual ownedBucketReversed :=
    .object (by simp [Json.Textual.object, Json.Textual.array, Json.Textual.string])
  have hread := ownedBucket_textual.read_pretty (by decide)
  have hread' := htextual.read_pretty_newline (by decide)
  exact ⟨by rw [hread], by rw [hread'], by rw [hread, hread']; exact ownedBucket_reordered⟩

theorem generation_sameButOrder_bucket :
    ∃ (db : Database) (s : Schemas) (types resources : String),
    Json.SameButOrder ownedBucket.pretty (ownedBucketReversed.pretty ++ "\n") ∧
    ofText ownedBucket.pretty = .ok db ∧
    ofText (ownedBucketReversed.pretty ++ "\n") = .ok db ∧
    db.schemas {} = .ok s ∧ s.WrittenAs types resources ∧
    Json.IsCanonical ["properties"] types ∧
    Json.IsCanonical ["attributes", "properties"] resources := by
  obtain ⟨hload, -, hgenerate⟩ := generation_sameButOrder ownedBucket_sameButOrder {}
  obtain ⟨d, hd, s, hs⟩ : ∃ d, Document.ofJson ownedBucket = .ok d ∧
    ∃ s, (ofDocument d).schemas {} = .ok s := ⟨_, rfl, _, rfl⟩
  have hnesting : Json.nesting ownedBucket.pretty ≤ Json.nestingLimit := by
    rw [ownedBucket_textual.nesting_pretty]
    decide
  have hdb : ofText ownedBucket.pretty = .ok (ofDocument d) :=
    ofText_eq_ok_iff.2 ⟨d, ownedBucket_textual.decodeText_pretty hnesting hd, rfl⟩
  have hdb' := (hload _).1 hdb
  rcases hgenerate _ _ (Or.inl hdb) (Or.inl hdb') with ⟨failure, hfailure, -⟩ | hwritten
  · rw [hs] at hfailure
    cases hfailure
  · obtain ⟨s', _, types, resources, hs', -, hwritten, -, htypes, hresources⟩ := hwritten
    exact ⟨_, s', types, resources, ownedBucket_sameButOrder, hdb, hdb', hs', hwritten, htypes,
      hresources⟩

end Database

end ConstructSchema
