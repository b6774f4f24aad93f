import ConstructSchema.Proofs.Spec.Lookups
import Mathlib.Data.Fintype.Basic
import Mathlib.Data.Finset.Card

/-!
Lookups against the direction of the edges, by the positions of the edge lists.

A list may hold one edge many times, edges from unknown names and edges that contradict each other,
so what counts is at how many positions a live edge to an id stands. The index forgets positions.
The live edges are what is read at the live positions, in ascending order (`map_livePositions`), and
so both lookups of a loaded database answer as a scan of all positions does
(`ofDocument_lookups_scan`).
-/

namespace ConstructSchema

/-- The positions of the live edges to an id. -/
def livePositions {α : Type} (edges : List Relation) (sources : Table α) (id : String) :
    Finset (Fin edges.length) :=
  Finset.univ.filter fun i => edges[i].target = id ∧ sources.contains edges[i].source

/-- What a scan of all positions answers: the value under the source of the edge if exactly one
position holds a live edge to the id, and else the failure that tells how many do. -/
structure AnswersAsScan {α : Type} (edges : List Relation) (sources : Table α) (id : String)
    (failure : Nat → Failure) (answer : Except Failure α) : Prop where
  ok_iff : ∀ value, answer = .ok value ↔
    ∃ i, livePositions edges sources id = {i} ∧ sources.get? edges[i].source = some value
  error_iff : ∀ f, answer = .error f ↔
    (livePositions edges sources id).card ≠ 1 ∧ f = failure (livePositions edges sources id).card

section

variable {α : Type} (edges : List Relation) (sources : Table α) (id : String)

/-- The live positions from left to right, and the edges there. -/
theorem map_livePositions :
    ∃ positions : List (Fin edges.length), (livePositions edges sources id).val = positions ∧
      positions.map edges.get = liveEdges edges sources id := by
  refine ⟨(List.finRange edges.length).filter ((fun e => e.target = id && sources.contains e.source)
    ∘ edges.get), ?_, ?_⟩
  · simp [livePositions, Fin.univ_def, Finset.filter, Function.comp_def]
  · rw [← List.filter_map, List.map_get_finRange, liveEdges]

/-- There are as many live edges as live positions. -/
theorem card_livePositions :
    (livePositions edges sources id).card = (liveEdges edges sources id).length := by
  obtain ⟨positions, hval, hmap⟩ := map_livePositions edges sources id
  rw [Finset.card_def, hval, ← hmap, List.length_map, Multiset.coe_card]

variable {edges sources id}

/-- An edge is the only live one exactly if it stands at the only live position. -/
theorem liveEdges_eq_singleton_iff {e : Relation} :
    liveEdges edges sources id = [e] ↔
      ∃ i, livePositions edges sources id = {i} ∧ edges[i] = e := by
  obtain ⟨positions, hval, hmap⟩ := map_livePositions edges sources id
  have hone : ∀ i, livePositions edges sources id = {i} ↔ positions = [i] := by
    intro i
    rw [← Finset.val_inj, hval, Finset.singleton_val, Multiset.coe_eq_singleton]
  simp only [← hmap, List.map_eq_singleton_iff, hone]
  rfl

/-- A lookup that finds the value of the only live edge, and else counts the live edges, answers as
a scan does. -/
theorem answersAsScan_of_liveEdges {failure : Nat → Failure} {answer : Except Failure α}
    (hok : ∀ value, answer = .ok value ↔
      ∃ e, liveEdges edges sources id = [e] ∧ sources.get? e.source = some value)
    (hfailure : failureOf answer =
      if (liveEdges edges sources id).length = 1 then none
      else some (failure (liveEdges edges sources id).length)) :
    AnswersAsScan edges sources id failure answer where
  ok_iff value := by
    simp only [hok, liveEdges_eq_singleton_iff]
    constructor
    · rintro ⟨e, ⟨i, hi, rfl⟩, hvalue⟩
      exact ⟨i, hi, hvalue⟩
    · rintro ⟨i, hi, hvalue⟩
      exact ⟨edges[i], ⟨i, hi, rfl⟩, hvalue⟩
  error_iff f := by
    rw [← failureOf_eq_some_iff, hfailure, card_livePositions]
    split
    · simp [*]
    · simp [*, eq_comm]

end

namespace Database

variable (db : Database)

theorem serviceOf_answersAsScan (r : Resource) :
    AnswersAsScan db.document.hasResource db.document.services r.id (.serviceNotFound r.typeId)
      (db.serviceOf r) :=
  answersAsScan_of_liveEdges (fun _ => db.serviceOf_eq_ok_iff) (db.failureOf_serviceOf r)

theorem parentOf_answersAsScan (t : TypeDefinition) :
    AnswersAsScan db.document.usesType db.document.resources t.id (.parentNotFound t.name)
      (db.parentOf t) :=
  answersAsScan_of_liveEdges (fun _ => db.parentOf_eq_ok_iff) (db.failureOf_parentOf t)

/-- **The index answers as a scan of the edge list.** In the database of a document, whatever its
edges are, the owner of a resource and the parent of a type definition are found exactly if one
position holds a live edge to them, and else the failure tells the number of such positions. Neither
has to be in a table. -/
theorem ofDocument_lookups_scan (d : Document) :
    (∀ r : Resource, AnswersAsScan d.hasResource (ofDocument d).document.services r.id
      (.serviceNotFound r.typeId) ((ofDocument d).serviceOf r)) ∧
    ∀ t : TypeDefinition, AnswersAsScan d.usesType (ofDocument d).document.resources t.id
      (.parentNotFound t.name) ((ofDocument d).parentOf t) :=
  ⟨(ofDocument d).serviceOf_answersAsScan, (ofDocument d).parentOf_answersAsScan⟩

end Database

end ConstructSchema
