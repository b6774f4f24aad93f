import ConstructSchema.Proofs.Schema.Agreement
import ConstructSchema.Proofs.Schema.Entries

/-!
Adding one entity to a database that can be assembled.

A new resource comes with an edge from its owner, a new type definition with an edge from its
parent. If the name of the newcomer is fresh, that is, neither a name nor an id of its table and no
end of an edge, then no lookup of an old entity sees it: `serviceOf_eq` and `parentOf_eq` say so.
An old reference does not lead to it either, because an old reference leads to a type definition
that was there before. So every old entity is assembled as before, and the schemas get exactly one
new entry (`schemas_extend`).
-/

namespace ConstructSchema

/-- A document with one more resource, and an edge to it from its owner. The edges stand between
`before` and `after`. -/
def Document.addResource (d : Document) (k : String) (r : Resource) (owner : String)
    (before after : List Relation) : Document :=
  { d with
    resources := d.resources.insert k r
    hasResource := before ++ ⟨owner, k⟩ :: after }

/-- A document with one more type definition, and an edge to it from its parent, between `before`
and `after`. -/
def Document.addDefinition (d : Document) (k : String) (t : TypeDefinition) (user : String)
    (before after : List Relation) : Document :=
  { d with
    typeDefinitions := d.typeDefinitions.insert k t
    usesType := before ++ ⟨user, k⟩ :: after }

namespace Database

variable {db db' : Database} {c : Conventions} {k : String}

/-- A database that can be assembled is consistent. -/
theorem consistent_of_schemas {s : Schemas} (h : db.schemas c = .ok s) : db.Consistent := by
  rw [← findSome?_checks_eq_none_iff, ← db.failureOf_schemas c, h]
  rfl

/-! ## One more resource -/

/-- A database is another one with one more resource, and an edge to it from its owner. -/
structure AddsResource (db db' : Database) (k owner : String) (r : Resource) : Prop where
  services : db'.document.services = db.document.services
  typeDefinitions : db'.document.typeDefinitions = db.document.typeDefinitions
  usesType : db'.document.usesType = db.document.usesType
  resources : db'.document.resources = db.document.resources.insert k r
  hasResource : ∃ before after, db.document.hasResource = before ++ after ∧
    db'.document.hasResource = before ++ ⟨owner, k⟩ :: after

/-- A resource that may be added under a name. -/
structure FreshResource (db : Database) (k owner : String) (r : Resource) : Prop where
  name : db.document.resources.get? k = none
  id : ∀ other ∈ db.document.resources.values, other.id ≠ k
  target : ∀ e ∈ db.document.hasResource, e.target ≠ k
  source : ∀ e ∈ db.document.usesType, e.source ≠ k
  typeId : ∀ other ∈ db.document.resources.values, other.typeId ≠ r.typeId
  sound : ∀ d ∈ r.descriptors, ∀ node ∈ d.nodes, ¬ node.Defective db.Named
  owner : ∃ service, db.document.services.get? owner = some service

namespace AddsResource

variable {owner : String} {r : Resource} (h : db.AddsResource db' k owner r)
include h

theorem definitionName?_eq : db.definitionName? = db'.definitionName? := by
  funext id
  rw [definitionName?, definitionName?, h.typeDefinitions]

theorem named_eq : db'.Named = db.Named := by
  funext id
  rw [Named, Named, h.typeDefinitions]

theorem sameNames (ds : List Descriptor) :
    SameNames db.definitionName? db'.definitionName? ds := by
  intro _ _ id _
  rw [h.definitionName?_eq]

/-- The new edge leads to another resource. -/
theorem serviceOf_eq {other : Resource} (hid : other.id ≠ k) :
    db.serviceOf other = db'.serviceOf other := by
  obtain ⟨before, after, hold, hnew⟩ := h.hasResource
  rw [serviceOf, serviceOf, db.owners_eq, db'.owners_eq, h.services, hold, hnew,
    Index.sources_append_cons_of_ne (Ne.symm hid)]

/-- No edge to a type definition starts at the new resource. -/
theorem parentOf_eq (hsource : ∀ e ∈ db.document.usesType, e.source ≠ k) (t : TypeDefinition) :
    db.parentOf t = db'.parentOf t := by
  have hlookup : ∀ name ∈ (Index.ofRelations db.document.usesType).sources t.id,
      db.document.resources.get? name = (db.document.resources.insert k r).get? name := by
    intro name hname
    rw [Index.sources_ofRelations, List.mem_map] at hname
    obtain ⟨e, he, rfl⟩ := hname
    rw [Table.get?_insert, if_neg (hsource e (List.mem_of_mem_filter he))]
  rw [parentOf, parentOf, db.users_eq, db'.users_eq, h.usesType, h.resources,
    theOnly_congr hlookup]

theorem propertyTypeSchema_eq (hfresh : db.FreshResource k owner r) (c : Conventions) :
    db.propertyTypeSchema c = db'.propertyTypeSchema c := by
  rw [propertyTypeSchema, propertyTypeSchema, h.typeDefinitions, mapM_congr]
  intro t _
  refine assemblePropertyType_congr (h.parentOf_eq hfresh.source t) (fun parent hparent => ?_)
    (h.sameNames _) c
  -- A parent is an old resource.
  obtain ⟨e, _, hget⟩ := db.parentOf_eq_ok_iff.1 hparent
  exact h.serviceOf_eq (hfresh.id parent (Table.mem_values_iff.2 ⟨e.source, hget⟩))

/-- The only live edge to the new resource is the new one. -/
theorem ownerEdges_eq (hfresh : db.FreshResource k owner r) (hid : r.id = k) :
    db'.ownerEdges r = [⟨owner, k⟩] := by
  obtain ⟨before, after, hold, hnew⟩ := h.hasResource
  obtain ⟨service, hservice⟩ := hfresh.owner
  rw [ownerEdges, h.services, hnew, hid, liveEdges_append_cons (hold ▸ hfresh.target) hservice]

/-- The new resource is assembled. -/
theorem exists_assembleResource (hfresh : db.FreshResource k owner r) (hid : r.id = k)
    (c : Conventions) : ∃ entry, db'.assembleResource c r = .ok (r.typeId, entry) := by
  have hchecks : ∀ check ∈ resourceChecks r, check.failure? db' = none := by
    rw [forall_resourceChecks_iff, h.named_eq, h.ownerEdges_eq hfresh hid]
    exact ⟨rfl, hfresh.sound⟩
  rw [← List.findSome?_eq_none_iff, ← db'.failureOf_assembleResource c, failureOf_eq_none_iff]
    at hchecks
  obtain ⟨⟨name, entry⟩, hentry⟩ := hchecks
  obtain ⟨rfl, _⟩ := db'.assembleResource_eq_ok_iff.1 hentry
  exact ⟨entry, hentry⟩

/-- The resource schema has one entry more, under the new type id. -/
theorem exists_resourceSchema (hfresh : db.FreshResource k owner r) (hid : r.id = k)
    {resources : ResourceSchema} (hs : db.resourceSchema c = .ok resources) :
    ∃ entry, resources.get? r.typeId = none ∧ db'.ResourceEntryOf c r entry ∧
      db'.resourceSchema c = .ok (resources.insert r.typeId entry) := by
  have hnot : r.typeId ∉ resources.names := by
    rw [mem_names_resourceSchema_iff hs]
    rintro ⟨other, hother, htype⟩
    exact hfresh.typeId other hother htype
  obtain ⟨pairs, hpairs, rfl⟩ := exists_mapM_of_resourceSchema hs
  obtain ⟨entry, hentry⟩ := h.exists_assembleResource hfresh hid c
  have hagree : ∀ other ∈ db.document.resources.values,
      db.assembleResource c other = db'.assembleResource c other := fun other hother =>
    assembleResource_congr (h.serviceOf_eq (hfresh.id other hother)) (h.sameNames _) c
  rw [mapM_congr hagree] at hpairs
  obtain ⟨pairs', hpairs', hinsert⟩ :=
    Table.exists_mapM_values_insert hpairs hfresh.name hentry hnot
  refine ⟨entry, Table.get?_eq_none_iff.2 hnot, (db'.assembleResource_eq_ok_iff.1 hentry).2, ?_⟩
  rw [resourceSchema, h.resources, hpairs', ← hinsert]
  rfl

end AddsResource

/-! ## One more type definition -/

/-- A database is another one with one more type definition, and an edge to it from its parent. -/
structure AddsDefinition (db db' : Database) (k user : String) (t : TypeDefinition) : Prop where
  services : db'.document.services = db.document.services
  resources : db'.document.resources = db.document.resources
  hasResource : db'.document.hasResource = db.document.hasResource
  typeDefinitions : db'.document.typeDefinitions = db.document.typeDefinitions.insert k t
  usesType : ∃ before after, db.document.usesType = before ++ after ∧
    db'.document.usesType = before ++ ⟨user, k⟩ :: after

/-- A type definition that may be added under a name, where `db'` is the database with it. Its
descriptors may refer to itself. -/
structure FreshDefinition (db db' : Database) (propertyTypes : PropertyTypeSchema)
    (k user : String) (t : TypeDefinition) : Prop where
  name : db.document.typeDefinitions.get? k = none
  id : ∀ other ∈ db.document.typeDefinitions.values, other.id ≠ k
  target : ∀ e ∈ db.document.usesType, e.target ≠ k
  sound : ∀ d ∈ t.descriptors, ∀ node ∈ d.nodes, ¬ node.Defective db'.Named
  user : ∃ parent, db.document.resources.get? user = some parent ∧
    parent.typeId ++ "." ++ t.name ++ "Property" ∉ propertyTypes.names

namespace AddsDefinition

variable {user : String} {t : TypeDefinition} (h : db.AddsDefinition db' k user t)
include h

theorem definitionName?_eq {id : String} (hid : id ≠ k) :
    db.definitionName? id = db'.definitionName? id := by
  rw [definitionName?, definitionName?, h.typeDefinitions, Table.get?_insert, if_neg hid]

/-- A reference of a consistent database leads to an old type definition. -/
theorem sameNames (hconsistent : db.Consistent) (hname : db.document.typeDefinitions.get? k = none)
    {ds : List Descriptor} (hds : ∀ d ∈ ds, d ∈ db.descriptors) :
    SameNames db.definitionName? db'.definitionName? ds := by
  intro d hd id hid
  apply h.definitionName?_eq
  rintro rfl
  refine hconsistent.noDefect d (hds d hd) (.ref id) hid (.unnamed id ?_)
  rintro ⟨t, hget, _⟩
  rw [hname] at hget
  cases hget

theorem serviceOf_eq (r : Resource) : db.serviceOf r = db'.serviceOf r := by
  rw [serviceOf, serviceOf, db.owners_eq, db'.owners_eq, h.services, h.hasResource]

/-- The new edge leads to another type definition. -/
theorem parentOf_eq {other : TypeDefinition} (hid : other.id ≠ k) :
    db.parentOf other = db'.parentOf other := by
  obtain ⟨before, after, hold, hnew⟩ := h.usesType
  rw [parentOf, parentOf, db.users_eq, db'.users_eq, h.resources, hold, hnew,
    Index.sources_append_cons_of_ne (Ne.symm hid)]

theorem resourceSchema_eq (hconsistent : db.Consistent)
    (hname : db.document.typeDefinitions.get? k = none) (c : Conventions) :
    db.resourceSchema c = db'.resourceSchema c := by
  rw [resourceSchema, resourceSchema, h.resources, mapM_congr]
  intro r hr
  refine assembleResource_congr (h.serviceOf_eq r) (h.sameNames hconsistent hname ?_) c
  exact fun d hd => List.mem_append_right _ (List.mem_flatMap.2 ⟨r, hr, hd⟩)

variable {propertyTypes : PropertyTypeSchema}

/-- The only live edge to the new type definition is the new one. -/
theorem userEdges_eq (hfresh : db.FreshDefinition db' propertyTypes k user t) (hid : t.id = k) :
    db'.userEdges t = [⟨user, k⟩] := by
  obtain ⟨before, after, hold, hnew⟩ := h.usesType
  obtain ⟨parent, hparent, _⟩ := hfresh.user
  rw [userEdges, h.resources, hnew, hid, liveEdges_append_cons (hold ▸ hfresh.target) hparent]

/-- The new type definition is assembled, under a new name. -/
theorem exists_assemblePropertyType (hconsistent : db.Consistent)
    (hfresh : db.FreshDefinition db' propertyTypes k user t) (hid : t.id = k) (c : Conventions) :
    ∃ name entry, db'.assemblePropertyType c t = .ok (name, entry) ∧
      name ∉ propertyTypes.names := by
  obtain ⟨parent, hparent, hnew⟩ := hfresh.user
  have hget : db'.document.resources.get? user = some parent := by rw [h.resources, hparent]
  have huser := h.userEdges_eq hfresh hid
  have howner : (db'.ownerEdges parent).length = 1 := by
    rw [ownerEdges, h.services, h.hasResource]
    exact hconsistent.oneOwner parent (Table.mem_values_iff.2 ⟨user, hparent⟩)
  have hchecks : ∀ check ∈ db'.typeChecks t, check.failure? db' = none := by
    rw [forall_typeChecks_iff, parents, huser]
    refine ⟨rfl, fun other hother => ?_, hfresh.sound⟩
    obtain rfl : other = parent := by simpa [hget] using hother
    exact howner
  rw [← List.findSome?_eq_none_iff, ← db'.failureOf_assemblePropertyType c, failureOf_eq_none_iff]
    at hchecks
  obtain ⟨⟨name, entry⟩, hentry⟩ := hchecks
  obtain ⟨⟨other, hother, rfl⟩, _⟩ := db'.assemblePropertyType_eq_ok_iff.1 hentry
  obtain rfl : other = parent :=
    Except.ok.inj (hother.symm.trans (db'.parentOf_eq_ok_iff.2 ⟨_, huser, hget⟩))
  exact ⟨_, entry, hentry, hnew⟩

/-- The property type schema has one entry more, under the name made for the new type definition. -/
theorem exists_propertyTypeSchema (hconsistent : db.Consistent)
    (hfresh : db.FreshDefinition db' propertyTypes k user t) (hid : t.id = k)
    (hs : db.propertyTypeSchema c = .ok propertyTypes) :
    ∃ name entry, propertyTypes.get? name = none ∧ db'.Derives t name ∧
      db'.PropertyTypeEntryOf c t entry ∧
      db'.propertyTypeSchema c = .ok (propertyTypes.insert name entry) := by
  obtain ⟨name, entry, hentry, hnot⟩ := h.exists_assemblePropertyType hconsistent hfresh hid c
  obtain ⟨hderives, hof⟩ := db'.assemblePropertyType_eq_ok_iff.1 hentry
  obtain ⟨pairs, hpairs, rfl⟩ := exists_mapM_of_propertyTypeSchema hs
  have hagree : ∀ other ∈ db.document.typeDefinitions.values,
      db.assemblePropertyType c other = db'.assemblePropertyType c other := by
    intro other hother
    refine assemblePropertyType_congr (h.parentOf_eq (hfresh.id other hother))
      (fun parent _ => h.serviceOf_eq parent) (h.sameNames hconsistent hfresh.name ?_) c
    exact fun d hd => List.mem_append_left _ (List.mem_flatMap.2 ⟨other, hother, hd⟩)
  rw [mapM_congr hagree] at hpairs
  have hpairsNot : name ∉ (Table.ofList pairs).names := fun hmem =>
    hnot (Table.mem_names_insert_iff.2 (Or.inr hmem))
  obtain ⟨pairs', hpairs', hinsert⟩ :=
    Table.exists_mapM_values_insert hpairs hfresh.name hentry hpairsNot
  refine ⟨name, entry, Table.get?_eq_none_iff.2 hnot, hderives, hof, ?_⟩
  -- The entry of the tag type is put in last, also behind the new one.
  rw [propertyTypeSchema, h.typeDefinitions, hpairs', ← Table.insert_comm _ hderives.ne_tagTypeName,
    ← hinsert]
  rfl

end AddsDefinition

/-! ## Extended documents -/

/-- A resource that says nothing about its id gets its name as its id. -/
theorem addsResource_ofDocument {d : Document} {r : Resource} {owner : String}
    {before after : List Relation} (hid : r.id = "") (hedges : d.hasResource = before ++ after) :
    (ofDocument d).AddsResource (ofDocument (d.addResource k r owner before after)) k owner
      { r with id := k } := by
  refine ⟨rfl, rfl, rfl, ?_, before, after, hedges, rfl⟩
  have hfill : idOr r.id k = k := by
    rw [hid]
    rfl
  change (d.resources.insert k r).mapWithName (fun name r => { r with id := idOr r.id name }) = _
  rw [Table.mapWithName_insert, hfill]
  rfl

/-- A type definition that says nothing about its id gets its name as its id. -/
theorem addsDefinition_ofDocument {d : Document} {t : TypeDefinition} {user : String}
    {before after : List Relation} (hid : t.id = "") (hedges : d.usesType = before ++ after) :
    (ofDocument d).AddsDefinition (ofDocument (d.addDefinition k t user before after)) k user
      { t with id := k } := by
  refine ⟨rfl, rfl, rfl, ?_, before, after, hedges, rfl⟩
  have hfill : idOr t.id k = k := by
    rw [hid]
    rfl
  change (d.typeDefinitions.insert k t).mapWithName
    (fun name t => { t with id := idOr t.id name }) = _
  rw [Table.mapWithName_insert, hfill]
  rfl

/-- **Adding is additive.** A fresh resource with its edge leaves the property types as they are and
adds one entry to the resources; a fresh type definition with its edge leaves the resources as they
are and adds one entry to the property types. -/
theorem schemas_extend {d : Document} {s : Schemas} (h : (ofDocument d).schemas c = .ok s)
    (k : String) :
    (∀ r owner before after, r.id = "" → d.hasResource = before ++ after →
      (ofDocument d).FreshResource k owner r →
      let db' := ofDocument (d.addResource k r owner before after)
      ∃ entry, s.resources.get? r.typeId = none ∧
        db'.ResourceEntryOf c { r with id := k } entry ∧
        db'.schemas c = .ok { s with resources := s.resources.insert r.typeId entry }) ∧
    ∀ t user before after, t.id = "" → d.usesType = before ++ after →
      let db' := ofDocument (d.addDefinition k t user before after)
      (ofDocument d).FreshDefinition db' s.propertyTypes k user t →
      ∃ name entry, s.propertyTypes.get? name = none ∧
        db'.Derives { t with id := k } name ∧ db'.PropertyTypeEntryOf c { t with id := k } entry ∧
        db'.schemas c = .ok { s with propertyTypes := s.propertyTypes.insert name entry } := by
  obtain ⟨htypes, hresources⟩ := (ofDocument d).schemas_eq_ok_iff.1 h
  constructor
  case left =>
    intro r owner before after hid hedges hfresh db'
    have hadds : (ofDocument d).AddsResource db' k owner { r with id := k } :=
      addsResource_ofDocument hid hedges
    have hfresh' : (ofDocument d).FreshResource k owner { r with id := k } := { hfresh with }
    obtain ⟨entry, hnew, hof, hresources'⟩ := hadds.exists_resourceSchema hfresh' rfl hresources
    rw [hadds.propertyTypeSchema_eq hfresh' c] at htypes
    exact ⟨entry, hnew, hof, db'.schemas_eq_ok_iff.2 ⟨htypes, hresources'⟩⟩
  case right =>
    intro t user before after hid hedges db' hfresh
    have hadds : (ofDocument d).AddsDefinition db' k user { t with id := k } :=
      addsDefinition_ofDocument hid hedges
    have hfresh' : (ofDocument d).FreshDefinition db' s.propertyTypes k user { t with id := k } :=
      { hfresh with }
    have hconsistent := consistent_of_schemas h
    obtain ⟨name, entry, hnew, hderives, hof, htypes'⟩ :=
      hadds.exists_propertyTypeSchema hconsistent hfresh' rfl htypes
    rw [hadds.resourceSchema_eq hconsistent hfresh.name c] at hresources
    exact ⟨name, entry, hnew, hderives, hof, db'.schemas_eq_ok_iff.2 ⟨htypes', hresources⟩⟩

/-- A resource to add to the database `shared`, which refers to the type definition there. -/
def sharedQueue : Resource :=
  ⟨"", "Queue", "AWS::S3::Queue", Table.empty,
    Table.ofList [("Rule", ⟨.ref "t", none, [.string], none⟩)]⟩

/-- A type definition to add to the database `shared`, which refers to itself. -/
def sharedFilter : TypeDefinition :=
  ⟨"", "Filter", Table.ofList [("Not", ⟨.ref "u", none, [], none⟩)]⟩

/-- No node is defective if none causes a failure. -/
theorem not_defective_of_nodeFailure? (db : Database) {ds : List Descriptor}
    (h : ∀ d ∈ ds, ∀ node ∈ d.nodes, Descriptor.nodeFailure? db.definitionName? "" node = none) :
    ∀ d ∈ ds, ∀ node ∈ d.nodes, ¬ node.Defective db.Named := fun d hd node hnode =>
  (Descriptor.nodeFailure?_eq_none_iff _ _ db.named_iff).1 (h d hd node hnode)

theorem schemas_extend_shared : ∃ s, (ofDocument shared.document).schemas {} = .ok s ∧
    (∃ entry, (ofDocument (shared.document.addResource "c" sharedQueue "s" [⟨"s", "a"⟩]
      [⟨"s", "b"⟩])).schemas {} =
        .ok { s with resources := s.resources.insert "AWS::S3::Queue" entry }) ∧
    ∃ name entry, (ofDocument (shared.document.addDefinition "u" sharedFilter "a" []
      [⟨"b", "t"⟩])).schemas {} =
        .ok { s with propertyTypes := s.propertyTypes.insert name entry } := by
  refine ⟨_, rfl, ?_, ?_⟩
  · have hfresh : (ofDocument shared.document).FreshResource "c" "s" sharedQueue := {
      name := rfl
      id := by decide
      target := by decide
      source := by decide
      typeId := by decide
      sound := not_defective_of_nodeFailure? _ (by decide)
      owner := ⟨_, rfl⟩ }
    obtain ⟨entry, _, _, h⟩ := (schemas_extend (d := shared.document) (c := {}) rfl "c").1
      sharedQueue "s" [⟨"s", "a"⟩] [⟨"s", "b"⟩] rfl rfl hfresh
    exact ⟨entry, h⟩
  · obtain ⟨name, entry, _, _, _, h⟩ := (schemas_extend (d := shared.document) (c := {}) rfl "u").2
      sharedFilter "a" [] [⟨"b", "t"⟩] rfl rfl
      { name := rfl
        id := by decide
        target := by decide
        sound := not_defective_of_nodeFailure? _ (by decide)
        user := ⟨_, rfl, by decide⟩ }
    exact ⟨name, entry, h⟩

end Database

end ConstructSchema
