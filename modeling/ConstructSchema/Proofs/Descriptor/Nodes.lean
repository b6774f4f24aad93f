import ConstructSchema.Descriptor.Resolve
import ConstructSchema.Proofs.Outcome

/-!
Resolving a descriptor, node by node.

`nodes` lists the nodes of a descriptor, a parent before its parts and the parts from left to
right. Two facts about resolving are read off that list. The failure is that of the first defective
node (`failureOf_resolve`), so that resolving succeeds exactly when no node is defective. The names
in the resolved type are those of the tags and references in the list, one for one and in order
(`names_of_resolve`). Both hold for a descriptor with its earlier revisions too.
-/

namespace ConstructSchema

namespace ValueType

mutual

/-- The names in a value type, at any depth, from left to right. -/
def names : ValueType → List String
  | .primitive _ => []
  | .named name => [name]
  | .listOf element | .mapOf element => element.names
  | .unionOf members => namesOfAll members

/-- The names in a list of value types. -/
def namesOfAll : List ValueType → List String
  | [] => []
  | member :: rest => member.names ++ namesOfAll rest

end

end ValueType

namespace Descriptor

/-! ## Nodes -/

mutual

/-- The nodes of a descriptor: first itself, then those of its parts. -/
def nodes : Descriptor → List Descriptor
  | .array element => .array element :: element.nodes
  | .map element => .map element :: element.nodes
  | .union types => .union types :: nodesOfAll types
  | leaf => [leaf]

/-- The nodes of a list of descriptors. -/
def nodesOfAll : List Descriptor → List Descriptor
  | [] => []
  | first :: rest => first.nodes ++ nodesOfAll rest

end

theorem nodesOfAll_eq_flatMap (ds : List Descriptor) : nodesOfAll ds = ds.flatMap nodes := by
  induction ds with
  | nil => rfl
  | cons first rest ih => rw [nodesOfAll, ih, List.flatMap_cons]

/-- A node that cannot be resolved, where `named` says which ids lead to a name. -/
inductive Defective (named : String → Prop) : Descriptor → Prop
  | bare (container : Container) : Defective named (.bare container)
  | emptyUnion : Defective named (.union [])
  | unnamed (id : String) : ¬ named id → Defective named (.ref id)

variable (nameOf : String → Option String) (resourceType : String)

/-- The failure that a node causes by itself, whatever its parts are. -/
def nodeFailure? : Descriptor → Option Failure
  | .ref id => if (nameOf id).isSome then none else some (.missingReference resourceType id)
  | .union [] => some (.malformedType resourceType .union)
  | .bare container => some (.malformedType resourceType container)
  | _ => none

/-- The name that a node becomes, if it becomes one. -/
def nodeName? : Descriptor → Option String
  | .tag => some tagTypeName
  | .ref id => (nameOf id).map (resourceType ++ "." ++ ·)
  | _ => none

/-- The nodes that cause a failure are the defective ones. -/
theorem nodeFailure?_eq_none_iff {named : String → Prop}
    (hnamed : ∀ id, named id ↔ ∃ name, nameOf id = some name) {d : Descriptor} :
    nodeFailure? nameOf resourceType d = none ↔ ¬ d.Defective named := by
  constructor
  · intro h hd
    cases hd with
    | bare container => simp [nodeFailure?] at h
    | emptyUnion => simp [nodeFailure?] at h
    | unnamed id hid =>
      simp only [nodeFailure?, ite_eq_left_iff, reduceCtorEq, imp_false, not_not] at h
      exact hid ((hnamed id).2 (Option.isSome_iff_exists.1 h))
  · intro h
    cases d with
    | ref id =>
      by_cases hid : named id
      · simp [nodeFailure?, Option.isSome_iff_exists.2 ((hnamed id).1 hid)]
      · exact absurd (.unnamed id hid) h
    | union types =>
      cases types with
      | nil => exact absurd .emptyUnion h
      | cons first rest => rfl
    | bare container => exact absurd (.bare container) h
    | _ => rfl

/-! ## Failures -/

mutual

/-- A descriptor fails as its first defective node does. -/
theorem failureOf_resolve (d : Descriptor) :
    failureOf (d.resolve nameOf resourceType) =
      d.nodes.findSome? (nodeFailure? nameOf resourceType) := by
  cases d with
  | ref id => cases h : nameOf id <;> simp [resolve, nodes, nodeFailure?, h]
  | array element | map element =>
    rw [resolve, failureOf_map, failureOf_resolve element, nodes, List.findSome?_cons]
    rfl
  | union types =>
    cases types with
    | nil => rfl
    | cons first rest =>
      have hrest := failureOf_resolveAll (first :: rest)
      simp only [resolve, failureOf_map, hrest, nodes, List.findSome?_cons]
      rfl
  | _ => rfl

theorem failureOf_resolveAll (ds : List Descriptor) :
    failureOf (resolveAll nameOf resourceType ds) =
      (nodesOfAll ds).findSome? (nodeFailure? nameOf resourceType) := by
  cases ds with
  | nil => rfl
  | cons first rest =>
    have hfirst := failureOf_resolve first
    have hrest := failureOf_resolveAll rest
    rw [resolveAll, nodesOfAll, List.findSome?_append, ← hfirst, ← hrest]
    cases first.resolve nameOf resourceType with
    | error failure => rfl
    | ok member => cases resolveAll nameOf resourceType rest <;> rfl

end

/-- A descriptor with its earlier revisions fails as the first defective node of all of them. -/
theorem failureOf_resolveRevisions (current : Descriptor) (previous : List Descriptor) :
    failureOf (current.resolveRevisions nameOf resourceType previous) =
      (nodesOfAll (current :: previous)).findSome? (nodeFailure? nameOf resourceType) := by
  cases previous with
  | nil => simp [resolveRevisions, nodesOfAll, failureOf_resolve]
  | cons first rest => simp only [resolveRevisions, failureOf_map, failureOf_resolveAll]

/-! ## Names -/

theorem resolveAll_cons_eq_ok_iff {d : Descriptor} {ds : List Descriptor} {vs : List ValueType} :
    resolveAll nameOf resourceType (d :: ds) = .ok vs ↔
      ∃ member members, d.resolve nameOf resourceType = .ok member ∧
        resolveAll nameOf resourceType ds = .ok members ∧ vs = member :: members := by
  rw [resolveAll]
  cases d.resolve nameOf resourceType with
  | error failure => simp
  | ok member => cases resolveAll nameOf resourceType ds <;> simp [eq_comm]

mutual

/-- The names in a resolved type are those that the nodes become. -/
theorem names_of_resolve {d : Descriptor} {v : ValueType}
    (h : d.resolve nameOf resourceType = .ok v) :
    v.names = d.nodes.filterMap (nodeName? nameOf resourceType) := by
  cases d with
  | ref id =>
    cases hid : nameOf id with
    | none => simp [resolve, hid] at h
    | some name =>
      obtain rfl : .named (resourceType ++ "." ++ name) = v := by simpa [resolve, hid] using h
      simp [nodes, nodeName?, ValueType.names, hid]
  | array element | map element =>
    obtain ⟨e, helement, rfl⟩ := map_eq_ok_iff.1 h
    rw [ValueType.names, names_of_resolve helement, nodes, List.filterMap_cons]
    rfl
  | union types =>
    cases types with
    | nil => cases h
    | cons first rest =>
      obtain ⟨members, hmembers, rfl⟩ := map_eq_ok_iff.1 h
      rw [ValueType.names, namesOfAll_of_resolveAll hmembers, nodes, List.filterMap_cons]
      rfl
  | bare container => cases h
  | _ =>
    cases h
    rfl

theorem namesOfAll_of_resolveAll {ds : List Descriptor} {vs : List ValueType}
    (h : resolveAll nameOf resourceType ds = .ok vs) :
    ValueType.namesOfAll vs = (nodesOfAll ds).filterMap (nodeName? nameOf resourceType) := by
  cases ds with
  | nil =>
    cases h
    rfl
  | cons first rest =>
    obtain ⟨member, members, hmember, hmembers, rfl⟩ :=
      (resolveAll_cons_eq_ok_iff nameOf resourceType).1 h
    rw [ValueType.namesOfAll, nodesOfAll, List.filterMap_append, names_of_resolve hmember,
      namesOfAll_of_resolveAll hmembers]

end

/-- The names in a resolved type with its earlier revisions are those that all their nodes
become. -/
theorem names_of_resolveRevisions {current : Descriptor} {previous : List Descriptor}
    {v : ValueType} (h : current.resolveRevisions nameOf resourceType previous = .ok v) :
    v.names = (nodesOfAll (current :: previous)).filterMap (nodeName? nameOf resourceType) := by
  cases previous with
  | nil =>
    rw [names_of_resolve nameOf resourceType h]
    simp [nodesOfAll]
  | cons first rest =>
    obtain ⟨members, hmembers, rfl⟩ := map_eq_ok_iff.1 h
    rw [ValueType.names, namesOfAll_of_resolveAll nameOf resourceType hmembers]

end Descriptor

end ConstructSchema
