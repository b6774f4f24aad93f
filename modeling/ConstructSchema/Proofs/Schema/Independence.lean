import ConstructSchema.Proofs.Schema.Entries
import ConstructSchema.Proofs.Schema.Remarks

/-!
What the outcome of an assembly depends on.

Conventions say where classes are found and nothing else: under any two of them an assembly fails
alike or gives schemas with the same keys, attributes and properties. Each language reads its own
part of the conventions (`Conventions.AgreeOn`), so conventions that agree on this part give it the
same bindings everywhere (`schemas_agree_of_conventions`). As remarks do not count either, two runs
can differ only in what the documents say besides them and, for each language, in what is configured
for it (`schemas_agree`).
-/

namespace ConstructSchema

/-! ## Languages -/

/-- Conventions that agree on what belongs to a language. -/
structure Conventions.AgreeOn (l : Language) (c c' : Conventions) : Prop where
  base : c.bases.of l = c'.bases.of l
  exceptions : l = .csharp → c.csharpExceptions = c'.csharpExceptions
  corePackage : l = .golang → c.golangCorePackage = c'.golangCorePackage

/-- Bindings that are the same in a language. -/
def Bindings.SameIn (b b' : Bindings) : Language → Prop
  | .typescript => b.typescript = b'.typescript
  | .csharp => b.csharp = b'.csharp
  | .golang => b.golang = b'.golang
  | .java => b.java = b'.java
  | .python => b.python = b'.python

/-- Bindings that are the same in each language on which the conventions agree. -/
def Bindings.AgreeUnder (c c' : Conventions) (b b' : Bindings) : Prop :=
  ∀ l, c.AgreeOn l c' → b.SameIn b' l

namespace Conventions

variable {c c' : Conventions} {l : Language}

/-- Of the segments only that of C# is made from conventions, from its exceptions. -/
theorem segment_eq (h : AgreeOn l c c') (s : Service) : c.segment s l = c'.segment s l := by
  cases l with
  | csharp => rw [segment, segment, applyExceptions, applyExceptions, h.exceptions rfl]
  | _ => rfl

theorem location_eq (h : AgreeOn l c c') (s : Service) : c.location s l = c'.location s l := by
  rw [location, location, h.base, segment_eq h]

variable (c c')

theorem serviceBindings_agree (s : Service) (name : String) :
    Bindings.AgreeUnder c c' (c.serviceBindings s name) (c'.serviceBindings s name) := by
  intro l h
  cases l <;> simp only [Bindings.SameIn, serviceBindings, location_eq h]

theorem coreBindings_agree (name : String) :
    Bindings.AgreeUnder c c' (c.coreBindings name) (c'.coreBindings name) := by
  intro l h
  have hbase := h.base
  cases l with
  | golang =>
    rw [Bases.of, Bases.of] at hbase
    simp only [Bindings.SameIn, coreBindings, hbase, h.corePackage rfl]
  | _ =>
    rw [Bases.of, Bases.of] at hbase
    simp only [Bindings.SameIn, coreBindings, hbase]

end Conventions

/-! ## Schemas -/

/-- Property types with the same properties, and with the same bindings in each language on which
the conventions agree. -/
structure PropertyTypeEntry.AgreeUnder (c c' : Conventions) (e e' : PropertyTypeEntry) : Prop where
  properties : e.properties = e'.properties
  bindings : Bindings.AgreeUnder c c' e.bindings e'.bindings

/-- Resources with the same attributes and properties, and with the same bindings in each language
on which the conventions agree. -/
structure ResourceEntry.AgreeUnder (c c' : Conventions) (e e' : ResourceEntry) : Prop where
  attributes : e.attributes = e'.attributes
  properties : e.properties = e'.properties
  construct : Bindings.AgreeUnder c c' e.construct e'.construct

/-- Schemas with the same keys, whose entries agree under each of them. -/
structure Schemas.AgreeUnder (c c' : Conventions) (s s' : Schemas) : Prop where
  propertyTypes : Table.Pointwise (fun _ => PropertyTypeEntry.AgreeUnder c c')
    s.propertyTypes s'.propertyTypes
  resources : Table.Pointwise (fun _ => ResourceEntry.AgreeUnder c c') s.resources s'.resources

namespace Database

open Table (Paired)

variable (db : Database) (c c' : Conventions)

/-- An entity is assembled under any conventions alike, up to its bindings. -/
theorem assembleResource_agree (r : Resource) :
    EndAlike (Paired (ResourceEntry.AgreeUnder c c')) (db.assembleResource c r)
      (db.assembleResource c' r) := by
  rw [assembleResource, assembleResource]
  refine .after _ fun service => .after _ fun attributes => .after _ fun properties => ?_
  exact .ok ⟨rfl, ⟨rfl, rfl, c.serviceBindings_agree c' service _⟩⟩

theorem assemblePropertyType_agree (t : TypeDefinition) :
    EndAlike (Paired (PropertyTypeEntry.AgreeUnder c c')) (db.assemblePropertyType c t)
      (db.assemblePropertyType c' t) := by
  rw [assemblePropertyType, assemblePropertyType]
  refine .after _ fun parent => .after _ fun service => .after _ fun properties => ?_
  exact .ok ⟨rfl, ⟨rfl, c.serviceBindings_agree c' service _⟩⟩

theorem tagEntry_agree : PropertyTypeEntry.AgreeUnder c c' (tagEntry c) (tagEntry c') :=
  ⟨rfl, c.coreBindings_agree c' tagTypeName⟩

theorem propertyTypeSchema_agree :
    EndAlike (Table.Pointwise fun _ => PropertyTypeEntry.AgreeUnder c c')
      (db.propertyTypeSchema c) (db.propertyTypeSchema c') := by
  rw [propertyTypeSchema, propertyTypeSchema]
  refine (EndAlike.mapM fun t _ => db.assemblePropertyType_agree c c' t).bind
    fun entries entries' hentries => ?_
  refine .ok (Table.pointwise_of_forall₂ ?_)
  exact Table.forall₂_insertEntry (Table.forall₂_ofList hentries) (tagEntry_agree c c')

theorem resourceSchema_agree :
    EndAlike (Table.Pointwise fun _ => ResourceEntry.AgreeUnder c c')
      (db.resourceSchema c) (db.resourceSchema c') := by
  rw [resourceSchema, resourceSchema]
  refine (EndAlike.mapM fun r _ => db.assembleResource_agree c c' r).bind
    fun entries entries' hentries => ?_
  exact .ok (Table.pointwise_of_forall₂ (Table.forall₂_ofList hentries))

theorem schemas_agree_of_conventions :
    EndAlike (Schemas.AgreeUnder c c') (db.schemas c) (db.schemas c') := by
  rw [schemas, schemas]
  refine (db.propertyTypeSchema_agree c c').bind fun _ _ htypes => ?_
  exact (db.resourceSchema_agree c c').bind fun _ _ hresources => .ok ⟨htypes, hresources⟩

variable {db} {db' : Database}

/-- **What two runs have in common.** Whatever remarks two databases differ in, and whatever
conventions they are assembled under, they fail alike or give schemas with the same keys, attributes
and properties, and with the same bindings in each language on which the conventions agree. The
version of the conventions has no part in the outcome. -/
theorem schemas_agree (h : db.document.withoutRemarks = db'.document.withoutRemarks) :
    EndAlike (Schemas.AgreeUnder c c') (db.schemas c) (db'.schemas c') ∧
      ∀ version, db'.schemas { c with version } = db.schemas c := by
  -- Under the same conventions both have the outcome of one document without remarks.
  have hremarks (c : Conventions) : db'.schemas c = db.schemas c := by
    have hsame : db'.withoutRemarks.schemas c = db.withoutRemarks.schemas c :=
      schemas_eq_of_document_eq h.symm c
    rw [← db'.schemas_withoutRemarks, hsame, db.schemas_withoutRemarks]
  constructor
  · rw [hremarks]
    exact db.schemas_agree_of_conventions c c'
  · intro version
    rw [hremarks]
    rfl

/-- The database `shared` with remarks: the service has another short name, an attribute and a
property are documented, and a property says that it is not required. -/
def sharedRemarked : Database := ofDocument {
  services := Table.ofList [("s", ⟨"", "aws-s3", "simple-storage", "S3", "AWS::S3"⟩)]
  resources := Table.ofList [
    ("a", ⟨"", "Old", "AWS::S3::Bucket", Table.empty, Table.empty⟩),
    ("b", ⟨"", "Bucket", "AWS::S3::Bucket",
      Table.ofList [("Arn", ⟨.string, [], some "The name of the bucket"⟩)],
      Table.ofList [
        ("Rules", ⟨.array (.ref "t"), some true, [.json], some "What to keep"⟩),
        ("Tags", ⟨.array .tag, some false, [], none⟩)]⟩)]
  typeDefinitions := Table.ofList [
    ("t", ⟨"", "Rule", Table.ofList [("Next", ⟨.union [.ref "t", .null], none, [], none⟩)]⟩)]
  hasResource := [⟨"s", "a"⟩, ⟨"s", "b"⟩]
  usesType := [⟨"b", "t"⟩] }

theorem schemas_agree_remarked : ∃ s s', shared.schemas {} = .ok s ∧
    sharedRemarked.schemas { bases := { java := "elsewhere" } } = .ok s' ∧
    s.AgreeUnder {} { bases := { java := "elsewhere" } } s' := by
  have hdocument : shared.document.withoutRemarks = sharedRemarked.document.withoutRemarks := rfl
  have hagree := (schemas_agree {} { bases := { java := "elsewhere" } } hdocument).1
  obtain ⟨s, hs⟩ : ∃ s, shared.schemas {} = .ok s := ⟨_, rfl⟩
  rw [hs] at hagree
  cases hagree with
  | ok hagree => exact ⟨s, _, hs, rfl, hagree⟩

end Database

end ConstructSchema
