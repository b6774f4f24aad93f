import ConstructSchema.Proofs.Schema.Agreement
import ConstructSchema.Proofs.Schema.Entries

/-!
What an assembly takes from the edges.

An edge is live if it leads from a name of the table of sources to the id of an entity of the table
of targets. An assembly looks up the owners of resources and the parents of type definitions, each
of them an entity of its table, so it meets live edges only; and a lookup wants one edge or counts
them, so their order does not matter. Two databases with the same tables whose live edges are the
same, each as often as in the other, have the same outcome (`schemas_eq_of_live`). `Rearranged` says
which changes to a list of edges leave its live ones alone.
-/

namespace ConstructSchema

/-! ## Live edges of a list -/

section

variable {α β : Type} {sources : Table α} {targets : Table β} {idOf : β → String}

/-- Whether an edge leads from a name of the table of sources to the id of a target. -/
def isLive (sources : Table α) (targets : Table β) (idOf : β → String) (e : Relation) : Bool :=
  sources.contains e.source && targets.values.any fun entity => idOf entity = e.target

/-- The live edges to an entity are those of all live edges that lead there. -/
theorem liveEdges_eq_filter_isLive {entity : β} (h : entity ∈ targets.values)
    (edges : List Relation) :
    liveEdges edges sources (idOf entity) =
      (edges.filter (isLive sources targets idOf)).filter (·.target = idOf entity) := by
  rw [liveEdges, List.filter_filter]
  refine List.filter_congr fun e _ => ?_
  by_cases htarget : e.target = idOf entity
  · have hany : (targets.values.any fun other => idOf other = idOf entity) = true :=
      List.any_eq_true.2 ⟨entity, h, by simp⟩
    simp only [isLive, htarget, hany, decide_true, Bool.true_and, Bool.and_true]
  · simp [htarget]

/-- A lookup through the index finds the sources of the live edges. -/
theorem filterMap_sources_eq (edges : List Relation) (table : Table α) (id : String) :
    ((Index.ofRelations edges).sources id).filterMap table.get? =
      (liveEdges edges table id).filterMap fun e => table.get? e.source := by
  have hall := forall₂_liveEdges edges table id
  generalize liveEdges edges table id = live at hall
  generalize ((Index.ofRelations edges).sources id).filterMap table.get? = found at hall
  induction hall with
  | nil => rfl
  | cons hhead _ ih => rw [List.filterMap_cons, hhead, ← ih]

/-- The order of the values that are found does not matter: there is one of them or not. -/
theorem Database.theOnly_eq_of_perm {lookup : String → Option α} {names names' : List String}
    (h : (names.filterMap lookup).Perm (names'.filterMap lookup)) :
    Database.theOnly lookup names = Database.theOnly lookup names' := by
  unfold Database.theOnly
  generalize names.filterMap lookup = found at h
  generalize names'.filterMap lookup = found' at h
  match found, found' with
  | [value], found' =>
    rw [List.singleton_perm] at h
    rw [← h]
  | [], [] => rfl
  | first :: second :: rest, found' =>
    have hlength := h.length_eq
    match found' with
    | [] => simp at hlength
    | [_] => simp at hlength
    | _ :: _ :: _ => simp [hlength]
  | [], _ :: _ => simp at h

/-- A lookup of an entity of the table depends on the live edges alone, in any order. -/
theorem Database.theOnly_sources_congr {edges edges' : List Relation}
    (h : (edges.filter (isLive sources targets idOf)).Perm
      (edges'.filter (isLive sources targets idOf)))
    {entity : β} (hentity : entity ∈ targets.values) :
    Database.theOnly sources.get? ((Index.ofRelations edges).sources (idOf entity)) =
      Database.theOnly sources.get? ((Index.ofRelations edges').sources (idOf entity)) := by
  apply theOnly_eq_of_perm
  rw [filterMap_sources_eq, filterMap_sources_eq, liveEdges_eq_filter_isLive hentity,
    liveEdges_eq_filter_isLive hentity]
  exact (h.filter _).filterMap _

end

/-! ## Changes that leave the live edges alone -/

/-- A list of edges that comes from another by reordering it, and by adding and removing edges that
are not live. -/
inductive Rearranged (live : Relation → Bool) : List Relation → List Relation → Prop
  | reorder {edges edges' : List Relation} : edges.Perm edges' → Rearranged live edges edges'
  | add (before after : List Relation) (e : Relation) : live e = false →
    Rearranged live (before ++ after) (before ++ e :: after)
  | remove (before after : List Relation) (e : Relation) : live e = false →
    Rearranged live (before ++ e :: after) (before ++ after)
  | trans {edges mid edges' : List Relation} : Rearranged live edges mid →
    Rearranged live mid edges' → Rearranged live edges edges'

/-- An edge that is not live is not seen among the live ones. -/
theorem filter_append_cons_of_not {live : Relation → Bool} {e : Relation} (h : live e = false)
    (before after : List Relation) :
    (before ++ e :: after).filter live = (before ++ after).filter live := by
  simp [List.filter_append, h]

/-- Each change keeps the live edges, and how often each of them stands there. -/
theorem Rearranged.perm_filter {live : Relation → Bool} {edges edges' : List Relation}
    (h : Rearranged live edges edges') : (edges.filter live).Perm (edges'.filter live) := by
  induction h with
  | reorder hperm => exact hperm.filter live
  | add before after e he => rw [filter_append_cons_of_not he]
  | remove before after e he => rw [filter_append_cons_of_not he]
  | trans _ _ ihfirst ihsecond => exact ihfirst.trans ihsecond

namespace Database

/-! ## Databases with the same tables and the same live edges -/

/-- Two databases with the same entities. -/
structure SameTables (db db' : Database) : Prop where
  services : db.document.services = db'.document.services
  resources : db.document.resources = db'.document.resources
  typeDefinitions : db.document.typeDefinitions = db'.document.typeDefinitions

/-- Whether an edge leads from a service to a resource. -/
def ownerLive (db : Database) : Relation → Bool :=
  isLive db.document.services db.document.resources Resource.id

/-- Whether an edge leads from a resource to a type definition. -/
def userLive (db : Database) : Relation → Bool :=
  isLive db.document.resources db.document.typeDefinitions TypeDefinition.id

variable {db db' : Database}

theorem SameTables.ownerLive_eq (h : db.SameTables db') : db.ownerLive = db'.ownerLive := by
  rw [ownerLive, ownerLive, h.services, h.resources]

theorem SameTables.userLive_eq (h : db.SameTables db') : db.userLive = db'.userLive := by
  rw [userLive, userLive, h.resources, h.typeDefinitions]

theorem SameTables.definitionName?_eq (h : db.SameTables db') :
    db.definitionName? = db'.definitionName? := by
  funext id
  rw [definitionName?, definitionName?, h.typeDefinitions]

/-- Two databases with the same entities and the same live edges, each as often as in the other. -/
structure SameLiveEdges (db db' : Database) : Prop extends SameTables db db' where
  owners : (db.document.hasResource.filter db.ownerLive).Perm
    (db'.document.hasResource.filter db'.ownerLive)
  users : (db.document.usesType.filter db.userLive).Perm
    (db'.document.usesType.filter db'.userLive)

namespace SameLiveEdges

variable (h : db.SameLiveEdges db')
include h

/-- A resource of the table has the same owner, or as many too few or too many. -/
theorem serviceOf_eq {r : Resource} (hr : r ∈ db.document.resources.values) :
    db.serviceOf r = db'.serviceOf r := by
  have howners := h.owners
  rw [← h.ownerLive_eq] at howners
  rw [serviceOf, serviceOf, db.owners_eq, db'.owners_eq, ← h.services,
    theOnly_sources_congr howners hr]

/-- A type definition of the table has the same parent, or as many too few or too many. -/
theorem parentOf_eq {t : TypeDefinition} (ht : t ∈ db.document.typeDefinitions.values) :
    db.parentOf t = db'.parentOf t := by
  have husers := h.users
  rw [← h.userLive_eq] at husers
  rw [parentOf, parentOf, db.users_eq, db'.users_eq, ← h.resources,
    theOnly_sources_congr husers ht]

theorem sameNames (ds : List Descriptor) :
    SameNames db.definitionName? db'.definitionName? ds := by
  intro _ _ id _
  rw [h.definitionName?_eq]

theorem propertyTypeSchema_eq (c : Conventions) :
    db.propertyTypeSchema c = db'.propertyTypeSchema c := by
  rw [propertyTypeSchema, propertyTypeSchema, ← h.typeDefinitions, mapM_congr]
  intro t ht
  refine assemblePropertyType_congr (h.parentOf_eq ht) (fun parent hparent => ?_) (h.sameNames _) c
  -- The parent is a resource of the table, so its owner is the same as well.
  obtain ⟨e, _, hget⟩ := db.parentOf_eq_ok_iff.1 hparent
  exact h.serviceOf_eq (Table.mem_values_iff.2 ⟨e.source, hget⟩)

theorem resourceSchema_eq (c : Conventions) : db.resourceSchema c = db'.resourceSchema c := by
  rw [resourceSchema, resourceSchema, ← h.resources, mapM_congr]
  intro r hr
  exact assembleResource_congr (h.serviceOf_eq hr) (h.sameNames _) c

end SameLiveEdges

/-- **Only live edges count.** Two databases with the same tables and the same live edges, each as
often as in the other, have the same outcome: the same schemas, or the same failure with the same
count. So the edges may be reordered, and edges that are not live may be added and removed. -/
theorem schemas_eq_of_live (db db' : Database) (c : Conventions) :
    (db.SameLiveEdges db' → db.schemas c = db'.schemas c) ∧
    (db.SameTables db' →
      Rearranged db.ownerLive db.document.hasResource db'.document.hasResource →
      Rearranged db.userLive db.document.usesType db'.document.usesType →
      db.schemas c = db'.schemas c) := by
  have hlive : db.SameLiveEdges db' → db.schemas c = db'.schemas c := by
    intro h
    rw [schemas, schemas, h.propertyTypeSchema_eq, h.resourceSchema_eq]
  refine ⟨hlive, fun htables howners husers => hlive ?_⟩
  exact {
    htables with
    owners := htables.ownerLive_eq ▸ howners.perm_filter
    users := htables.userLive_eq ▸ husers.perm_filter }

/-- The database `shared` with its edges to resources in another order, and with an edge from an
unknown service and one to an unknown type definition. -/
def sharedRearranged : Database where
  document := { shared.document with
    hasResource := [⟨"s", "b"⟩, ⟨"gone", "b"⟩, ⟨"s", "a"⟩]
    usesType := [⟨"b", "t"⟩, ⟨"b", "gone"⟩] }

theorem schemas_eq_of_live_shared :
    shared.SameLiveEdges sharedRearranged ∧
    Rearranged shared.ownerLive shared.document.hasResource sharedRearranged.document.hasResource ∧
    Rearranged shared.userLive shared.document.usesType sharedRearranged.document.usesType ∧
    shared.schemas {} = sharedRearranged.schemas {} := by
  have htables : shared.SameTables sharedRearranged := ⟨rfl, rfl, rfl⟩
  have hlive : shared.SameLiveEdges sharedRearranged :=
    { htables with owners := by decide, users := by decide }
  have hreorder : Rearranged shared.ownerLive shared.document.hasResource
      [⟨"s", "b"⟩, ⟨"s", "a"⟩] := .reorder (by decide)
  have howners : Rearranged shared.ownerLive shared.document.hasResource
      sharedRearranged.document.hasResource :=
    hreorder.trans (.add [⟨"s", "b"⟩] [⟨"s", "a"⟩] ⟨"gone", "b"⟩ (by decide))
  have husers : Rearranged shared.userLive shared.document.usesType
      sharedRearranged.document.usesType :=
    .add [⟨"b", "t"⟩] [] ⟨"b", "gone"⟩ (by decide)
  exact ⟨hlive, howners, husers, (schemas_eq_of_live _ _ {}).2 htables howners husers⟩

end Database

end ConstructSchema
