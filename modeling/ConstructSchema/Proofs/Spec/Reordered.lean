import ConstructSchema.Proofs.Descriptor.Reordered
import ConstructSchema.Proofs.Spec.RoundTrip

/-!
Documents of values whose members stand in another order.

Each part of a document is a record, and its fields are decoded by stable decoders, so all decoders
of documents are stable. Texts whose values are reordered therefore load as the same database
(`ofText_sameButOrder`, `ofFile_sameButOrder`).
-/

namespace ConstructSchema

open Json (Stable ReadsRecord)

/-! ## Stable decoders -/

theorem Relation.stable : Stable Relation.ofJson := by
  refine ReadsRecord.stable ⟨fun j => rfl, fun r => rfl, fun r r' halike hcheck => ?_⟩
    Relation.orderFree
  have hsource := halike.field_eq "from" hcheck rfl Json.text_stable
  have htarget := halike.field_eq "to" hcheck rfl Json.text_stable
  simp only [hsource, htarget, halike.required_eq, and_self]

theorem Service.stable : Stable Service.ofJson := by
  refine ReadsRecord.stable ⟨fun j => rfl, fun r => rfl, fun r r' halike hcheck => ?_⟩
    Service.orderFree
  have hid := halike.field_eq "$id" hcheck rfl Json.text_stable
  have hname := halike.field_eq "name" hcheck rfl Json.text_stable
  have hshortName := halike.field_eq "shortName" hcheck rfl Json.text_stable
  have hcapitalized := halike.field_eq "capitalized" hcheck rfl Json.text_stable
  have hnamespaceId := halike.field_eq "cloudFormationNamespace" hcheck rfl Json.text_stable
  simp only [hid, hname, hshortName, hcapitalized, hnamespaceId, halike.required_eq, and_self]

theorem RawProperty.stable : Stable RawProperty.ofJson := by
  refine ReadsRecord.stable ⟨fun j => rfl, fun r => rfl, fun r r' halike hcheck => ?_⟩
    RawProperty.orderFree
  have htype := halike.field_eq "type" hcheck rfl Descriptor.stable
  have hrequired := halike.field_eq "required" hcheck rfl Json.flag_stable.nullable
  have hprevious := halike.field_eq "previousTypes" hcheck rfl Descriptor.stable.listOf
  have hdocumentation := halike.field_eq "documentation" hcheck rfl Json.text_stable.nullable
  simp only [htype, hrequired, hprevious, hdocumentation, halike.required_eq, and_self]

theorem RawAttribute.stable : Stable RawAttribute.ofJson := by
  refine ReadsRecord.stable ⟨fun j => rfl, fun r => rfl, fun r r' halike hcheck => ?_⟩
    RawAttribute.orderFree
  have htype := halike.field_eq "type" hcheck rfl Descriptor.stable
  have hprevious := halike.field_eq "previousTypes" hcheck rfl Descriptor.stable.listOf
  have hdocumentation := halike.field_eq "documentation" hcheck rfl Json.text_stable.nullable
  simp only [htype, hprevious, hdocumentation, halike.required_eq, and_self]

theorem Resource.stable : Stable Resource.ofJson := by
  refine ReadsRecord.stable ⟨fun j => rfl, fun r => rfl, fun r r' halike hcheck => ?_⟩
    Resource.orderFree
  have hid := halike.field_eq "$id" hcheck rfl Json.text_stable
  have hname := halike.field_eq "name" hcheck rfl Json.text_stable
  have htypeId := halike.field_eq "cloudFormationType" hcheck rfl Json.text_stable
  have hattributes := halike.field_eq "attributes" hcheck rfl
    (RawAttribute.stable.tableOf fun _ _ => nofun)
  have hproperties := halike.field_eq "properties" hcheck rfl
    (RawProperty.stable.tableOf fun _ _ => nofun)
  simp only [hid, hname, htypeId, hattributes, hproperties, halike.required_eq, and_self]

theorem TypeDefinition.stable : Stable TypeDefinition.ofJson := by
  refine ReadsRecord.stable ⟨fun j => rfl, fun r => rfl, fun r r' halike hcheck => ?_⟩
    TypeDefinition.orderFree
  have hid := halike.field_eq "$id" hcheck rfl Json.text_stable
  have hname := halike.field_eq "name" hcheck rfl Json.text_stable
  have hproperties := halike.field_eq "properties" hcheck rfl
    (RawProperty.stable.tableOf fun _ _ => nofun)
  simp only [hid, hname, hproperties, halike.required_eq, and_self]

theorem Document.stable : Stable Document.ofJson := by
  refine ReadsRecord.stable ⟨fun j => rfl, fun r => rfl, fun r r' halike hcheck => ?_⟩
    Document.orderFree
  have hservices := halike.field_eq "service" hcheck rfl
    (Service.stable.tableOf fun _ _ => nofun)
  have hresources := halike.field_eq "resource" hcheck rfl
    (Resource.stable.tableOf fun _ _ => nofun)
  have hdefinitions := halike.field_eq "typeDefinition" hcheck rfl
    (TypeDefinition.stable.tableOf fun _ _ => nofun)
  have hhasResource := halike.field_eq "hasResource" hcheck rfl Relation.stable.listOf
  have husesType := halike.field_eq "usesType" hcheck rfl Relation.stable.listOf
  simp only [hservices, hresources, hdefinitions, hhasResource, husesType, and_self]

/-! ## Texts -/

/-- Nothing but the value counts in a text that nothing follows. -/
theorem Json.decodeText_of_complete {α : Type} {decode : Json → Except Fault α} {text : String}
    (h : (Json.read text).2 = true) : decodeText decode text = decode (Json.read text).1 := by
  rw [decodeText]
  cases hdecode : decode (Json.read text).1 <;> simp [hdecode, h]

/-- Two texts hold values that differ only in the order of the members of objects, and nothing
else but blanks. -/
structure Json.SameButOrder (text text' : String) : Prop where
  complete : (Json.read text).2 = true
  complete' : (Json.read text').2 = true
  reordered : (Json.read text).1.Reordered (Json.read text').1

namespace Json.SameButOrder

variable {text text' : String}

theorem symm (h : SameButOrder text text') : SameButOrder text' text :=
  ⟨h.complete', h.complete, h.reordered.symm⟩

/-- What one text decodes to, the other does, too. -/
theorem decodeText_eq_ok_iff {α : Type} {decode : Json → Except Fault α} (hstable : Stable decode)
    (h : SameButOrder text text') {a : α} :
    decodeText decode text = .ok a ↔ decodeText decode text' = .ok a := by
  rw [decodeText_of_complete h.complete, decodeText_of_complete h.complete']
  exact ⟨hstable _ _ h.reordered a, hstable _ _ h.reordered.symm a⟩

end Json.SameButOrder

/-! ## Databases -/

namespace Database

variable {text text' path : String} {db : Database}

theorem ofText_eq_ok_iff :
    ofText text = .ok db ↔
      ∃ d, Json.decodeText Document.ofJson text = .ok d ∧ ofDocument d = db := by
  unfold ofText
  cases Json.decodeText Document.ofJson text <;> simp

theorem ofFile_eq_ok_iff :
    ofFile path text = .ok db ↔
      ∃ d, Json.decodeText Document.ofJson text = .ok d ∧
        { ofDocument d with source := some path } = db := by
  unfold ofFile
  cases Json.decodeText Document.ofJson text <;> simp

/-- A database that loads from a text loads from it in another order. -/
theorem ofText_sameButOrder (h : Json.SameButOrder text text') :
    ofText text = .ok db ↔ ofText text' = .ok db := by
  simp only [ofText_eq_ok_iff, h.decodeText_eq_ok_iff Document.stable]

theorem ofFile_sameButOrder (h : Json.SameButOrder text text') :
    ofFile path text = .ok db ↔ ofFile path text' = .ok db := by
  simp only [ofFile_eq_ok_iff, h.decodeText_eq_ok_iff Document.stable]

/-- A text holds a database, by itself or as the text of a file. -/
def HeldBy (db : Database) (text : String) : Prop :=
  ofText text = .ok db ∨ ∃ path, ofFile path text = .ok db

/-- What a text holds is the document that it decodes to. -/
theorem HeldBy.exists_document (h : db.HeldBy text) :
    ∃ d, Json.decodeText Document.ofJson text = .ok d ∧ db.document = d.withIds := by
  rcases h with h | ⟨path, h⟩
  · obtain ⟨d, hd, rfl⟩ := ofText_eq_ok_iff.1 h
    exact ⟨d, hd, rfl⟩
  · obtain ⟨d, hd, rfl⟩ := ofFile_eq_ok_iff.1 h
    exact ⟨d, hd, rfl⟩

/-- Texts that differ in the order only hold the same document. -/
theorem HeldBy.document_eq {db' : Database} (h : Json.SameButOrder text text')
    (hdb : db.HeldBy text) (hdb' : db'.HeldBy text') : db.document = db'.document := by
  obtain ⟨d, hd, hdocument⟩ := hdb.exists_document
  obtain ⟨d', hd', hdocument'⟩ := hdb'.exists_document
  rw [h.decodeText_eq_ok_iff Document.stable, hd', Except.ok.injEq] at hd
  rw [hdocument, hdocument', hd]

end Database

end ConstructSchema
