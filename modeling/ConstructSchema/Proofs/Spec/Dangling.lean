import ConstructSchema.Proofs.Spec.Lookups

/-!
Reported edges and edges that lookups skip.

`dangling` asks whether the target of an edge is a name of a table, and a lookup asks whether it is
the id of the entity looked up. Where an id of its own differs from the name in the table the two
part: an edge to the id is reported and yet counted, an edge to the name is not reported and counted
by no one. `lostEdges_agree_iff` says exactly when the answers for an edge agree, and
`lostEdges_agree_of_ids` that they do where each entity has its name as its id.
-/

namespace ConstructSchema

/-- The edges with a source or a target that is no name of its table. -/
def lostEdges {α β : Type} (edges : List Relation) (sources : Table α) (targets : Table β) :
    List Relation :=
  edges.filter fun e => !sources.contains e.source || !targets.contains e.target

section

variable {α β : Type} {edges : List Relation} {sources : Table α} {targets : Table β}

theorem mem_lostEdges {e : Relation} :
    e ∈ lostEdges edges sources targets ↔
      e ∈ edges ∧ (sources.contains e.source = true → ¬ targets.contains e.target = true) := by
  simp [lostEdges, imp_iff_not_or]

/-- An edge that no entity of the target table counts: its source is unknown or its target is no
id. -/
theorem forall_not_mem_liveEdges_iff {idOf : β → String} {e : Relation} (he : e ∈ edges) :
    (∀ entity ∈ targets.values, e ∉ liveEdges edges sources (idOf entity)) ↔
      (sources.contains e.source = true → ¬ ∃ entity ∈ targets.values, idOf entity = e.target) := by
  simp only [mem_liveEdges, ← Table.contains_iff, he, true_and]
  constructor
  · rintro hskip hsource ⟨entity, hentity, hid⟩
    exact hskip entity hentity ⟨hid.symm, hsource⟩
  · rintro hskip entity hentity ⟨htarget, hsource⟩
    exact hskip hsource ⟨entity, hentity, htarget.symm⟩

/-- An edge is reported exactly if no entity counts it, if and only if its target is a name of the
table exactly if it is an id. For an edge with an unknown source this does not matter. -/
theorem lostEdges_agree_iff {idOf : β → String} {e : Relation} (he : e ∈ edges) :
    ((e ∈ lostEdges edges sources targets ↔
        ∀ entity ∈ targets.values, e ∉ liveEdges edges sources (idOf entity)) ↔
      (sources.contains e.source = true →
        (targets.contains e.target = true ↔ ∃ entity ∈ targets.values, idOf entity = e.target))) := by
  rw [mem_lostEdges, forall_not_mem_liveEdges_iff he]
  by_cases hsource : sources.contains e.source = true
  · simp only [he, hsource, true_and, true_implies]
    exact not_iff_not
  · simp [he, hsource]

/-- Where each entity has its name in the table as its id, the names are the ids. -/
theorem contains_iff_exists_id {idOf : β → String}
    (hid : ∀ name entity, targets.get? name = some entity → idOf entity = name) {k : String} :
    targets.contains k = true ↔ ∃ entity ∈ targets.values, idOf entity = k := by
  simp only [Table.contains_iff, Table.mem_values_iff]
  constructor
  · rintro ⟨entity, hentity⟩
    exact ⟨entity, ⟨k, hentity⟩, hid k entity hentity⟩
  · rintro ⟨entity, ⟨name, hentity⟩, rfl⟩
    exact ⟨entity, (hid name entity hentity).symm ▸ hentity⟩

/-- An entity that has no id of its own, or repeats its name as its id, has its name as its id after
the ids are filled in. -/
theorem id_eq_name_of_mapWithName {idOf : β → String} {fill : String → β → β}
    (hfill : ∀ name raw, idOf (fill name raw) = idOr (idOf raw) name)
    (hid : ∀ name raw, targets.get? name = some raw → idOr (idOf raw) name = name)
    (name : String) (entity : β) (h : (targets.mapWithName fill).get? name = some entity) :
    idOf entity = name := by
  rw [Table.get?_mapWithName, Option.map_eq_some_iff] at h
  obtain ⟨raw, hraw, rfl⟩ := h
  rw [hfill, hid name raw hraw]

/-- Where each entity has its name as its id, an edge is reported exactly if no entity counts it. -/
theorem lostEdges_agree_of_ids {idOf : β → String}
    (hid : ∀ name entity, targets.get? name = some entity → idOf entity = name) {e : Relation}
    (he : e ∈ edges) :
    e ∈ lostEdges edges sources targets ↔
      ∀ entity ∈ targets.values, e ∉ liveEdges edges sources (idOf entity) :=
  (lostEdges_agree_iff he).2 fun _ => contains_iff_exists_id hid

end

namespace Database

/-- The edges to resources that `dangling` reports. -/
def danglingOwners (db : Database) : List Relation :=
  lostEdges db.document.hasResource db.document.services db.document.resources

/-- The edges to type definitions that `dangling` reports. -/
def danglingUsers (db : Database) : List Relation :=
  lostEdges db.document.usesType db.document.resources db.document.typeDefinitions

theorem dangling_eq_append (db : Database) : db.dangling = db.danglingOwners ++ db.danglingUsers :=
  rfl

/-- **When a report means a skipped edge.** An edge with a known source is reported exactly if no
entity of the database counts it, if and only if its target is a name of the table exactly if it is
the id of an entity there. -/
theorem dangling_agrees_iff (db : Database) :
    db.dangling = db.danglingOwners ++ db.danglingUsers ∧
    (∀ e ∈ db.document.hasResource,
      ((e ∈ db.danglingOwners ↔ ∀ r ∈ db.document.resources.values, e ∉ db.ownerEdges r) ↔
        (db.document.services.contains e.source = true →
          (db.document.resources.contains e.target = true ↔
            ∃ r ∈ db.document.resources.values, r.id = e.target)))) ∧
    ∀ e ∈ db.document.usesType,
      ((e ∈ db.danglingUsers ↔ ∀ t ∈ db.document.typeDefinitions.values, e ∉ db.userEdges t) ↔
        (db.document.resources.contains e.source = true →
          (db.document.typeDefinitions.contains e.target = true ↔
            ∃ t ∈ db.document.typeDefinitions.values, t.id = e.target))) := by
  refine ⟨db.dangling_eq_append, fun e he => ?_, fun e he => ?_⟩
  · exact lostEdges_agree_iff he
  · exact lostEdges_agree_iff he

/-- A document whose resources and type definitions have no ids of their own, or repeat their names
as ids: a report means a skipped edge. -/
theorem dangling_agrees_of_ids {d : Document}
    (hresources : ∀ name r, d.resources.get? name = some r → idOr r.id name = name)
    (htypes : ∀ name t, d.typeDefinitions.get? name = some t → idOr t.id name = name) :
    (∀ e ∈ d.hasResource, (e ∈ (ofDocument d).danglingOwners ↔
      ∀ r ∈ d.withIds.resources.values, e ∉ (ofDocument d).ownerEdges r)) ∧
    ∀ e ∈ d.usesType, (e ∈ (ofDocument d).danglingUsers ↔
      ∀ t ∈ d.withIds.typeDefinitions.values, e ∉ (ofDocument d).userEdges t) := by
  refine ⟨fun e he => lostEdges_agree_of_ids ?_ he, fun e he => lostEdges_agree_of_ids ?_ he⟩
  · exact id_eq_name_of_mapWithName (fun _ _ => rfl) hresources
  · exact id_eq_name_of_mapWithName (fun _ _ => rfl) htypes

/-- A database with a resource whose id is not its name in the table, and an edge to each. -/
def renamed : Database := ofDocument {
  services := Table.ofList [("s", ⟨"", "aws-s3", "s3", "S3", "AWS::S3"⟩)]
  resources := Table.ofList [("k", ⟨"r", "Bucket", "AWS::S3::Bucket", Table.empty, Table.empty⟩)]
  typeDefinitions := Table.empty
  hasResource := [⟨"s", "r"⟩, ⟨"s", "k"⟩]
  usesType := [] }

/-- The edge to the id is reported, although the resource counts it and finds its owner by it. The
edge to the name is not reported, although no resource counts it. -/
theorem dangling_renamed :
    renamed.dangling = [⟨"s", "r"⟩] ∧
    (∃ r service, renamed.document.resources.get? "k" = some r ∧
      renamed.ownerEdges r = [⟨"s", "r"⟩] ∧ renamed.serviceOf r = .ok service) ∧
    ¬ ∀ e ∈ renamed.document.hasResource,
      (e ∈ renamed.danglingOwners ↔
        ∀ r ∈ renamed.document.resources.values, e ∉ renamed.ownerEdges r) := by
  refine ⟨rfl, ⟨_, _, rfl, rfl, rfl⟩, fun h => ?_⟩
  have hskip := (h ⟨"s", "r"⟩ (by decide)).1 (by decide)
  revert hskip
  decide

end Database

end ConstructSchema
