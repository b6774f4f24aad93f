import ConstructSchema.Proofs.Schema.Entries
import ConstructSchema.Proofs.Text.Replace

/-!
Property types stand inside the classes of their resources.

The class of a property type is named by the class of its parent, a dot and its own name. In every
language it stands at the location of the parent's class and inside that class (`NestedIn`). Go has
no classes within classes; there the first dot of a name is an underscore, so what stands between
the two parts depends on whether the name of the parent holds a dot of its own. The two entries are
made in two passes; they meet because both ask for the owner of the same resource
(`schemas_nest_property_types`).
-/

namespace ConstructSchema

/-! ## Bindings -/

/-- The places of a class within another one, in all languages: the locations are the same, and its
names go on where those of the outer class end. -/
structure Bindings.NestedIn (inner outer : Bindings) (name goSeparator : String) : Prop where
  typescript : inner.typescript =
    ⟨outer.typescript.location, outer.typescript.name ++ "." ++ name⟩
  csharp : inner.csharp = ⟨outer.csharp.location, outer.csharp.name ++ "." ++ name⟩
  golang : inner.golang =
    ⟨outer.golang.module, outer.golang.package, outer.golang.name ++ goSeparator ++ name⟩
  java : inner.java = ⟨outer.java.location, outer.java.name ++ "." ++ name⟩
  python : inner.python = ⟨outer.python.location, outer.python.name ++ "." ++ name⟩

/-- What stands between the names of a class and of one within it, in Go. -/
def goSeparator (outer : String) : String :=
  if '.' ∈ outer.toList then "." else "_"

/-- The first dot of a dotted name is that of the first part if it has one, and else the one between
the parts. -/
theorem replaceFirst_dotted (outer name : String) :
    Text.replaceFirst (outer ++ "." ++ name) "." "_" =
      Text.replaceFirst outer "." "_" ++ goSeparator outer ++ name := by
  have hdot : ".".toList = ['.'] := by decide
  unfold goSeparator
  rw [String.append_assoc]
  split
  · rename_i h
    rw [Text.replaceFirst_append_of_mem hdot h, String.append_assoc]
  · rename_i h
    have hfirst : Text.replaceFirst ("." ++ name) "." "_" = "_" ++ name := by
      rw [Text.replaceFirst_append_of_mem hdot (by decide)]
      rfl
    rw [Text.replaceFirst_append_of_not_mem hdot h, Text.replaceFirst_of_not_mem hdot h, hfirst,
      String.append_assoc]

/-- A dotted name of one service is nested in its first part. -/
theorem Conventions.serviceBindings_nestedIn (c : Conventions) (s : Service) (outer name : String) :
    (c.serviceBindings s (outer ++ "." ++ name)).NestedIn (c.serviceBindings s outer) name
      (goSeparator outer) := by
  constructor
  case golang =>
    simp only [serviceBindings]
    rw [replaceFirst_dotted]
  all_goals rfl

/-- The prefix of class names has no dot. -/
theorem goSeparator_classPrefix (name : String) :
    goSeparator (classPrefix ++ name) = goSeparator name := by
  have hprefix : '.' ∉ classPrefix.toList := by decide
  simp only [goSeparator, String.toList_append, List.mem_append, hprefix, false_or]

/-! ## Entries -/

namespace Database

variable {db : Database} {c : Conventions}

/-- The entry of a type definition is nested in that of its parent: both belong to the owner of the
parent. -/
theorem nestedIn_of_entries {t : TypeDefinition} {parent : Resource} {inner : PropertyTypeEntry}
    {outer : ResourceEntry} (hparent : db.parentOf t = .ok parent)
    (hinner : db.PropertyTypeEntryOf c t inner) (houter : db.ResourceEntryOf c parent outer) :
    inner.bindings.NestedIn outer.construct (t.name ++ "Property") (goSeparator parent.name) := by
  obtain ⟨parent', hparent', ⟨service, hservice, hbindings⟩, -⟩ := hinner
  obtain ⟨service', hservice', hconstruct⟩ := houter.construct
  obtain rfl : parent = parent' := Except.ok.inj (hparent.symm.trans hparent')
  obtain rfl : service = service' := Except.ok.inj (hservice.symm.trans hservice')
  have hnested := c.serviceBindings_nestedIn service (classPrefix ++ parent.name)
    (t.name ++ "Property")
  rw [goSeparator_classPrefix] at hnested
  have hname : classPrefix ++ parent.name ++ "." ++ t.name ++ "Property" =
      classPrefix ++ parent.name ++ "." ++ (t.name ++ "Property") := String.append_assoc
  rw [hbindings, hconstruct, hname]
  exact hnested

/-- Every type definition of an assembled database has an entry. -/
theorem exists_propertyTypeEntryOf {propertyTypes : PropertyTypeSchema}
    (h : db.propertyTypeSchema c = .ok propertyTypes) {t : TypeDefinition}
    (ht : t ∈ db.document.typeDefinitions.values) : ∃ entry, db.PropertyTypeEntryOf c t entry := by
  obtain ⟨pairs, hpairs, -⟩ := exists_mapM_of_propertyTypeSchema h
  obtain ⟨⟨k, entry⟩, hentry⟩ := exists_of_mapM hpairs ht
  exact ⟨entry, (db.assemblePropertyType_eq_ok_iff.1 hentry).2⟩

/-- Every resource of an assembled database has an entry. -/
theorem exists_resourceEntryOf {resources : ResourceSchema}
    (h : db.resourceSchema c = .ok resources) {r : Resource}
    (hr : r ∈ db.document.resources.values) : ∃ entry, db.ResourceEntryOf c r entry := by
  obtain ⟨pairs, hpairs, -⟩ := exists_mapM_of_resourceSchema h
  obtain ⟨⟨k, entry⟩, hentry⟩ := exists_of_mapM hpairs hr
  exact ⟨entry, (db.assembleResource_eq_ok_iff.1 hentry).2⟩

/-- **Property types are nested in their resources.** If a type definition is the last one with the
name derived for it, and its parent the last resource of its type, then their entries are those
under the two names, and in every language the class of the one stands inside the class of the
other. -/
theorem schemas_nest_property_types {s : Schemas} (h : db.schemas c = .ok s)
    {typeName resourceName : String} {t : TypeDefinition} {parent : Resource}
    (hparent : db.parentOf t = .ok parent)
    (ht : db.document.typeDefinitions.IsLast
      (db.Derives · (parent.typeId ++ "." ++ t.name ++ "Property")) typeName t)
    (hlast : db.document.resources.IsLast (·.typeId = parent.typeId) resourceName parent) :
    ∃ inner outer,
      s.propertyTypes.get? (parent.typeId ++ "." ++ t.name ++ "Property") = some inner ∧
      s.resources.get? parent.typeId = some outer ∧
      inner.bindings.NestedIn outer.construct (t.name ++ "Property")
        (if '.' ∈ parent.name.toList then "." else "_") := by
  obtain ⟨htypes, hresources⟩ := db.schemas_eq_ok_iff.1 h
  obtain ⟨inner, hinner⟩ := exists_propertyTypeEntryOf htypes
    (Table.mem_values_iff.2 ⟨typeName, ht.get?_eq⟩)
  obtain ⟨outer, houter⟩ := exists_resourceEntryOf hresources
    (Table.mem_values_iff.2 ⟨resourceName, hlast.get?_eq⟩)
  have hnested := nestedIn_of_entries hparent hinner houter
  have hinnerAt := (get?_propertyTypeSchema_iff htypes ht.holds.ne_tagTypeName).2
    ⟨typeName, t, ht, hinner⟩
  have houterAt := (get?_resourceSchema_iff hresources).2 ⟨resourceName, parent, hlast, houter⟩
  exact ⟨inner, outer, hinnerAt, houterAt, hnested⟩

/-- A type definition of a bucket. -/
def nestedRule : TypeDefinition := ⟨"t", "Rule", Table.empty⟩

/-- A bucket that uses the type definition. -/
def nestedBucket : Resource := ⟨"b", "Bucket", "AWS::S3::Bucket", Table.empty, Table.empty⟩

/-- Two buckets of one type, of which the last uses the type definition. -/
def nested : Database := ofDocument {
  services := Table.ofList [("s", ⟨"", "aws-s3", "s3", "S3", "AWS::S3"⟩)]
  resources := Table.ofList [
    ("a", ⟨"", "Old", "AWS::S3::Bucket", Table.empty, Table.empty⟩), ("b", nestedBucket)]
  typeDefinitions := Table.ofList [("t", nestedRule)]
  hasResource := [⟨"s", "a"⟩, ⟨"s", "b"⟩]
  usesType := [⟨"b", "t"⟩] }

theorem schemas_nest_property_types_nested : ∃ s,
    nested.schemas {} = .ok s ∧ nested.parentOf nestedRule = .ok nestedBucket ∧
    nested.document.typeDefinitions.IsLast
      (nested.Derives · "AWS::S3::Bucket.RuleProperty") "t" nestedRule ∧
    nested.document.resources.IsLast (·.typeId = "AWS::S3::Bucket") "b" nestedBucket ∧
    ∃ inner outer,
      s.propertyTypes.get? "AWS::S3::Bucket.RuleProperty" = some inner ∧
      s.resources.get? "AWS::S3::Bucket" = some outer ∧
      inner.bindings.NestedIn outer.construct "RuleProperty" "_" := by
  have htypeNames : nested.document.typeDefinitions.names = ["t"] := rfl
  have hresourceNames : nested.document.resources.names = ["a", "b"] := rfl
  have ht : nested.document.typeDefinitions.IsLast
      (nested.Derives · "AWS::S3::Bucket.RuleProperty") "t" nestedRule := by
    refine ⟨rfl, ⟨nestedBucket, rfl, rfl⟩, fun k t hk _ => ?_⟩
    have hmem := Table.mem_names_iff.2 ⟨t, hk⟩
    rw [htypeNames, List.mem_singleton] at hmem
    subst hmem
    exact List.le_refl _
  have hlast : nested.document.resources.IsLast (·.typeId = "AWS::S3::Bucket") "b"
      nestedBucket := by
    refine ⟨rfl, rfl, fun k r hk _ => ?_⟩
    have hmem := Table.mem_names_iff.2 ⟨r, hk⟩
    rw [hresourceNames, List.mem_pair] at hmem
    obtain rfl | rfl := hmem <;> decide
  have hs : nested.schemas {} = .ok _ := rfl
  have hparent : nested.parentOf nestedRule = .ok nestedBucket := rfl
  exact ⟨_, hs, hparent, ht, hlast, schemas_nest_property_types hs hparent ht hlast⟩

end Database

end ConstructSchema
