import ConstructSchema.Proofs.Table
import ConstructSchema.Spec.Database

/-!
Lookups against the direction of the edges, as scans of the edge lists.

An edge to an id is live if its source is in the table of sources. The index built at load time
answers as a scan does (`sources_ofRelations`), so the owner of a resource and the parent of a type
definition are found exactly when one live edge leads there, counted with multiplicity
(`serviceOf_eq_ok_iff`, `parentOf_eq_ok_iff`), and otherwise the failure tells how many there are
(`failureOf_serviceOf`, `failureOf_parentOf`).
-/

namespace ConstructSchema

/-! ## The index -/

namespace Index

/-- One more edge is one more source, for its own target only. -/
theorem sources_add (index : Index) (r : Relation) (target : String) :
    (index.add r).sources target =
      if target = r.target then index.sources target ++ [r.source] else index.sources target := by
  simp only [sources, add, Table.get?_insert]
  split
  · rename_i h
    rw [h]
    rfl
  · rfl

theorem sources_foldl_add (relations : List Relation) (index : Index) (target : String) :
    (relations.foldl add index).sources target =
      index.sources target ++ (relations.filter (·.target = target)).map (·.source) := by
  induction relations generalizing index with
  | nil => simp
  | cons r rest ih =>
    rw [List.foldl_cons, ih, sources_add]
    by_cases h : r.target = target
    · simp [h]
    · simp [h, Ne.symm h]

/-- The index answers as a scan of the edges does: in their order, with repetitions. -/
theorem sources_ofRelations (relations : List Relation) (target : String) :
    (ofRelations relations).sources target =
      (relations.filter (·.target = target)).map (·.source) := by
  rw [ofRelations, sources_foldl_add]
  rfl

/-- An edge to another target is not seen. -/
theorem sources_append_cons_of_ne {e : Relation} {target : String} (h : e.target ≠ target)
    (before after : List Relation) :
    (ofRelations (before ++ e :: after)).sources target =
      (ofRelations (before ++ after)).sources target := by
  simp [sources_ofRelations, List.filter_append, h]

end Index

/-! ## Live edges -/

/-- The edges to an id whose source is in the table of sources, in their order. -/
def liveEdges {α : Type} (edges : List Relation) (sources : Table α) (id : String) :
    List Relation :=
  edges.filter fun e => e.target = id && sources.contains e.source

theorem mem_liveEdges {α : Type} {edges : List Relation} {sources : Table α} {id : String}
    {e : Relation} :
    e ∈ liveEdges edges sources id ↔
      e ∈ edges ∧ e.target = id ∧ ∃ value, sources.get? e.source = some value := by
  simp [liveEdges, Table.contains_iff]

/-- Where no other edge leads to an id, an edge from a known source is its only live edge. -/
theorem liveEdges_append_cons {α : Type} {sources : Table α} {source id : String} {value : α}
    {before after : List Relation} (hother : ∀ e ∈ before ++ after, e.target ≠ id)
    (hsource : sources.get? source = some value) :
    liveEdges (before ++ ⟨source, id⟩ :: after) sources id = [⟨source, id⟩] := by
  have hnone : ∀ edges : List Relation, (∀ e ∈ edges, e.target ≠ id) →
      liveEdges edges sources id = [] := by
    intro edges h
    exact List.filter_eq_nil_iff.2 fun e he => by simp [h e he]
  have hbefore := hnone before fun e he => hother e (List.mem_append_left _ he)
  have hafter := hnone after fun e he => hother e (List.mem_append_right _ he)
  have hcontains : sources.contains source = true := Table.contains_iff.2 ⟨value, hsource⟩
  rw [liveEdges] at hbefore hafter ⊢
  rw [List.filter_append, List.filter_cons, hbefore, hafter]
  simp [hcontains]

/-- What a lookup through the index finds are the sources of the live edges, one for one. -/
theorem forall₂_liveEdges {α : Type} (edges : List Relation) (table : Table α) (id : String) :
    List.Forall₂ (fun e value => table.get? e.source = some value) (liveEdges edges table id)
      (((Index.ofRelations edges).sources id).filterMap table.get?) := by
  rw [Index.sources_ofRelations]
  induction edges with
  | nil => exact .nil
  | cons e rest ih =>
    rw [liveEdges] at ih ⊢
    by_cases htarget : e.target = id
    · cases hget : table.get? e.source with
      | none => simpa [htarget, hget, Table.contains] using ih
      | some value => simpa [htarget, hget, Table.contains] using ih
    · simpa [htarget] using ih

namespace Database

/-! ## Exactly one -/

theorem theOnly_eq_ok_iff {α : Type} {lookup : String → Option α} {names : List String}
    {value : α} : theOnly lookup names = .ok value ↔ names.filterMap lookup = [value] := by
  unfold theOnly
  split
  · rename_i v h
    simp [h]
  · rename_i h
    simpa using h value

/-- A lookup depends on what it finds for its names only. -/
theorem theOnly_congr {α : Type} {lookup lookup' : String → Option α} {names : List String}
    (h : ∀ name ∈ names, lookup name = lookup' name) :
    theOnly lookup names = theOnly lookup' names := by
  rw [theOnly, theOnly, List.filterMap_congr h]

theorem failureOf_theOnly {α : Type} (lookup : String → Option α) (names : List String) :
    failureOf (theOnly lookup names) =
      if (names.filterMap lookup).length = 1 then none
      else some (names.filterMap lookup).length := by
  unfold theOnly
  split
  · rename_i v h
    simp [h]
  · rename_i h
    have hne : (names.filterMap lookup).length ≠ 1 := by
      intro hone
      obtain ⟨v, hv⟩ := List.length_eq_one_iff.1 hone
      exact h v hv
    rw [if_neg hne, failureOf_error]

variable {α : Type} {edges : List Relation} {table : Table α} {id : String}

/-- A lookup through the index finds a value exactly if one live edge leads from it. -/
theorem theOnly_sources_eq_ok_iff {value : α} :
    theOnly table.get? ((Index.ofRelations edges).sources id) = .ok value ↔
      ∃ e, liveEdges edges table id = [e] ∧ table.get? e.source = some value := by
  have hall := forall₂_liveEdges edges table id
  rw [theOnly_eq_ok_iff]
  constructor
  · intro h
    rw [h, List.forall₂_cons_right_iff] at hall
    obtain ⟨e, rest, hvalue, hrest, hlive⟩ := hall
    rw [List.forall₂_nil_right_iff] at hrest
    exact ⟨e, by rw [hlive, hrest], hvalue⟩
  · rintro ⟨e, hlive, hvalue⟩
    rw [hlive, List.forall₂_cons_left_iff] at hall
    obtain ⟨v, rest, hv, hrest, hfound⟩ := hall
    rw [List.forall₂_nil_left_iff] at hrest
    rw [hfound, hrest, ← Option.some.inj (hv.symm.trans hvalue)]

/-- It fails exactly if there is no live edge or more than one, and counts them. -/
theorem failureOf_theOnly_sources :
    failureOf (theOnly table.get? ((Index.ofRelations edges).sources id)) =
      if (liveEdges edges table id).length = 1 then none
      else some (liveEdges edges table id).length := by
  rw [failureOf_theOnly, (forall₂_liveEdges edges table id).length_eq]

/-! ## Owners and users -/

variable (db : Database)

/-- The live edges to a resource. -/
def ownerEdges (r : Resource) : List Relation :=
  liveEdges db.document.hasResource db.document.services r.id

/-- The live edges to a type definition. -/
def userEdges (t : TypeDefinition) : List Relation :=
  liveEdges db.document.usesType db.document.resources t.id

theorem serviceOf_eq_ok_iff {r : Resource} {service : Service} :
    db.serviceOf r = .ok service ↔
      ∃ e, db.ownerEdges r = [e] ∧ db.document.services.get? e.source = some service := by
  rw [ownerEdges, ← theOnly_sources_eq_ok_iff, ← db.owners_eq, serviceOf]
  cases theOnly db.document.services.get? (db.owners.sources r.id) <;> simp

/-- The owner is missing or ambiguous exactly if the live edges are not one. -/
theorem failureOf_serviceOf (r : Resource) :
    failureOf (db.serviceOf r) =
      if (db.ownerEdges r).length = 1 then none
      else some (.serviceNotFound r.typeId (db.ownerEdges r).length) := by
  have h : failureOf (db.serviceOf r) =
      (failureOf (theOnly db.document.services.get? (db.owners.sources r.id))).map
        (.serviceNotFound r.typeId) := by
    rw [serviceOf]
    cases theOnly db.document.services.get? (db.owners.sources r.id) <;> rfl
  rw [h, db.owners_eq, failureOf_theOnly_sources, ownerEdges]
  split <;> rfl

theorem parentOf_eq_ok_iff {t : TypeDefinition} {parent : Resource} :
    db.parentOf t = .ok parent ↔
      ∃ e, db.userEdges t = [e] ∧ db.document.resources.get? e.source = some parent := by
  rw [userEdges, ← theOnly_sources_eq_ok_iff, ← db.users_eq, parentOf]
  cases theOnly db.document.resources.get? (db.users.sources t.id) <;> simp

/-- The parent is missing or ambiguous exactly if the live edges are not one. -/
theorem failureOf_parentOf (t : TypeDefinition) :
    failureOf (db.parentOf t) =
      if (db.userEdges t).length = 1 then none
      else some (.parentNotFound t.name (db.userEdges t).length) := by
  have h : failureOf (db.parentOf t) =
      (failureOf (theOnly db.document.resources.get? (db.users.sources t.id))).map
        (.parentNotFound t.name) := by
    rw [parentOf]
    cases theOnly db.document.resources.get? (db.users.sources t.id) <;> rfl
  rw [h, db.users_eq, failureOf_theOnly_sources, userEdges]
  split <;> rfl

/-! ## Resources of a type, and names of type definitions -/

/-- A type id leads to a resource exactly if the table has one of that type. -/
theorem exists_resourceOfType?_iff {typeId : String} :
    (∃ r, db.resourceOfType? typeId = some r) ↔
      ∃ r ∈ db.document.resources.values, r.typeId = typeId := by
  rw [← Option.isSome_iff_exists, resourceOfType?, List.find?_isSome]
  simp

/-- An id leads to the name of the type definition under it, unless that is empty. -/
theorem definitionName?_eq_some_iff {id name : String} :
    db.definitionName? id = some name ↔
      ∃ t, db.document.typeDefinitions.get? id = some t ∧ t.name ≠ "" ∧ t.name = name := by
  unfold definitionName?
  split
  · rename_i t ht
    by_cases hname : t.name = ""
    · simp [ht, hname]
    · simp [ht, hname]
  · rename_i ht
    simp [ht]

end Database

end ConstructSchema
