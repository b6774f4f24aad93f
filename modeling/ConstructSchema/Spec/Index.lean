import ConstructSchema.Spec.Document

/-!
An index of edges by their target.

It answers "which sources have an edge to this target" without a walk over all edges. Sources
stand in the order of their edges, and a source with several edges stands several times.
-/

namespace ConstructSchema

/-- The sources of the edges to each target. -/
abbrev Index := Table (List String)

namespace Index

/-- The sources of the edges to a target. -/
def sources (index : Index) (target : String) : List String :=
  (index.get? target).getD []

/-- The index with one more edge. -/
def add (index : Index) (r : Relation) : Index :=
  index.insert r.target (index.sources r.target ++ [r.source])

/-- The index of a list of edges. -/
def ofRelations (relations : List Relation) : Index :=
  relations.foldl add Table.empty

end Index

end ConstructSchema
