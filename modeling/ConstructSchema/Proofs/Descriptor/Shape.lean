import ConstructSchema.Proofs.Descriptor.Nodes

/-!
The shape of a resolved type.

`Mirrors` relates a descriptor to a value type of the same shape, node by node: nothing is
flattened, merged or left out. A descriptor resolves exactly to the type that mirrors it
(`resolve_eq_ok_iff`). From this relation it is read off how deep the type is, that no union in it
is empty, and what it becomes in another resource: the same type with the names of references
starting with the type of that resource (`Mirrors.requalified`). The name of the tag type has no
dot, so it is never taken for one of them.
-/

namespace ConstructSchema

/-! ## Value types -/

namespace ValueType

mutual

/-- The nodes of a value type: first itself, then those of its parts. -/
def nodes : ValueType → List ValueType
  | .listOf element => .listOf element :: element.nodes
  | .mapOf element => .mapOf element :: element.nodes
  | .unionOf members => .unionOf members :: nodesOfAll members
  | leaf => [leaf]

/-- The nodes of a list of value types. -/
def nodesOfAll : List ValueType → List ValueType
  | [] => []
  | member :: rest => member.nodes ++ nodesOfAll rest

end

mutual

/-- The value type with its names changed, at every depth. -/
def mapNames (f : String → String) : ValueType → ValueType
  | .primitive kind => .primitive kind
  | .named name => .named (f name)
  | .listOf element => .listOf (element.mapNames f)
  | .mapOf element => .mapOf (element.mapNames f)
  | .unionOf members => .unionOf (mapNamesOfAll f members)

/-- The value types of a list with their names changed. -/
def mapNamesOfAll (f : String → String) : List ValueType → List ValueType
  | [] => []
  | member :: rest => member.mapNames f :: mapNamesOfAll f rest

end

end ValueType

/-- The name of a type in another resource: what starts with the type of the old one and a dot
starts with the type of the new one and a dot. -/
def requalify (old new name : String) : String :=
  if (old ++ ".").toList <+: name.toList then
    new ++ "." ++ String.ofList (name.toList.drop (old ++ ".").toList.length)
  else name

theorem requalify_qualified (old new name : String) :
    requalify old new (old ++ "." ++ name) = new ++ "." ++ name := by
  have hname : (old ++ "." ++ name).toList = (old ++ ".").toList ++ name.toList :=
    String.toList_append
  rw [requalify, hname, if_pos (List.prefix_append _ _), List.drop_left, String.ofList_toList]

/-- The name of the tag type has no dot. -/
theorem requalify_tagTypeName (old new : String) : requalify old new tagTypeName = tagTypeName := by
  rw [requalify, if_neg]
  intro h
  have hdot : '.' ∈ (old ++ ".").toList := by simp
  exact absurd (h.subset hdot) (by decide)

namespace Descriptor

/-! ## Descriptors -/

mutual

/-- The number of nested levels of a descriptor; one without parts has one. -/
def depth : Descriptor → Nat
  | .array element | .map element => 1 + element.depth
  | .union types => 1 + maxDepth types
  | _ => 1

/-- The greatest depth of a list of descriptors, and zero if it is empty. -/
def maxDepth : List Descriptor → Nat
  | [] => 0
  | first :: rest => max first.depth (maxDepth rest)

end

/-- The descriptor that stands for one with its earlier revisions. -/
def merged (current : Descriptor) : List Descriptor → Descriptor
  | [] => current
  | previous => .union (current :: previous)

/-- The primitive that a kind of descriptor without contents stands for. -/
def primitive? : Descriptor → Option Primitive
  | .string => some .string
  | .boolean => some .boolean
  | .number | .integer => some .number
  | .dateTime => some .dateTime
  | .json => some .json
  | .null => some .undefined
  | .unknown => some .any
  | _ => none

variable {nameOf : String → Option String} {resourceType other : String}

/-- A value type of the same shape as a descriptor that stands in a resource of the type
`resourceType`, where `nameOf` gives the names of type definitions. -/
inductive Mirrors (nameOf : String → Option String) (resourceType : String) :
    Descriptor → ValueType → Prop
  | primitive {d : Descriptor} {kind : Primitive} : d.primitive? = some kind →
    Mirrors nameOf resourceType d (.primitive kind)
  | tag : Mirrors nameOf resourceType .tag (.named tagTypeName)
  | ref {id name : String} : nameOf id = some name →
    Mirrors nameOf resourceType (.ref id) (.named (resourceType ++ "." ++ name))
  | array {element : Descriptor} {v : ValueType} : Mirrors nameOf resourceType element v →
    Mirrors nameOf resourceType (.array element) (.listOf v)
  | map {element : Descriptor} {v : ValueType} : Mirrors nameOf resourceType element v →
    Mirrors nameOf resourceType (.map element) (.mapOf v)
  | union {types : List Descriptor} {members : List ValueType} : types ≠ [] →
    List.Forall₂ (Mirrors nameOf resourceType) types members →
    Mirrors nameOf resourceType (.union types) (.unionOf members)

/-! ## Resolving gives the type that mirrors the descriptor -/

mutual

theorem mirrors_of_resolve {d : Descriptor} {v : ValueType}
    (h : d.resolve nameOf resourceType = .ok v) : d.Mirrors nameOf resourceType v := by
  cases d with
  | ref id =>
    cases hid : nameOf id with
    | none => simp [resolve, hid] at h
    | some name =>
      obtain rfl : .named (resourceType ++ "." ++ name) = v := by simpa [resolve, hid] using h
      exact .ref hid
  | array element =>
    obtain ⟨e, helement, rfl⟩ := map_eq_ok_iff.1 h
    exact .array (mirrors_of_resolve helement)
  | map element =>
    obtain ⟨e, helement, rfl⟩ := map_eq_ok_iff.1 h
    exact .map (mirrors_of_resolve helement)
  | union types =>
    cases types with
    | nil => cases h
    | cons first rest =>
      obtain ⟨members, hmembers, rfl⟩ := map_eq_ok_iff.1 h
      exact .union (List.cons_ne_nil _ _) (mirrors_of_resolveAll hmembers)
  | bare container => cases h
  | tag =>
    cases h
    exact .tag
  | _ =>
    cases h
    exact .primitive rfl

theorem mirrors_of_resolveAll {ds : List Descriptor} {vs : List ValueType}
    (h : resolveAll nameOf resourceType ds = .ok vs) :
    List.Forall₂ (Mirrors nameOf resourceType) ds vs := by
  cases ds with
  | nil =>
    cases h
    exact .nil
  | cons first rest =>
    obtain ⟨member, members, hmember, hmembers, rfl⟩ :=
      (resolveAll_cons_eq_ok_iff nameOf resourceType).1 h
    exact .cons (mirrors_of_resolve hmember) (mirrors_of_resolveAll hmembers)

end

mutual

theorem Mirrors.resolve_eq {d : Descriptor} {v : ValueType} (h : d.Mirrors nameOf resourceType v) :
    d.resolve nameOf resourceType = .ok v := by
  cases h with
  | primitive hkind => cases d <;> cases hkind <;> rfl
  | tag => rfl
  | ref hid => rw [resolve, hid]
  | array helement => rw [resolve, helement.resolve_eq, Except.map]
  | map helement => rw [resolve, helement.resolve_eq, Except.map]
  | @union types members hne hmembers =>
    cases types with
    | nil => exact absurd rfl hne
    | cons first rest => simp only [resolve, resolveAll_eq_of_mirrors hmembers, Except.map]

theorem resolveAll_eq_of_mirrors {ds : List Descriptor} {vs : List ValueType}
    (h : List.Forall₂ (Mirrors nameOf resourceType) ds vs) :
    resolveAll nameOf resourceType ds = .ok vs := by
  cases h with
  | nil => rfl
  | cons hfirst hrest => rw [resolveAll, hfirst.resolve_eq, resolveAll_eq_of_mirrors hrest]

end

/-- A descriptor resolves exactly to the type that mirrors it. -/
theorem resolve_eq_ok_iff {d : Descriptor} {v : ValueType} :
    d.resolve nameOf resourceType = .ok v ↔ d.Mirrors nameOf resourceType v :=
  ⟨mirrors_of_resolve, Mirrors.resolve_eq⟩

/-- To resolve a descriptor with its earlier revisions is to resolve what stands for all of them. -/
theorem resolveRevisions_eq_resolve_merged (current : Descriptor) (previous : List Descriptor) :
    current.resolveRevisions nameOf resourceType previous =
      (current.merged previous).resolve nameOf resourceType := by
  cases previous <;> rfl

/-! ## What a type of the same shape has in common with the descriptor -/

mutual

theorem Mirrors.depth_eq {d : Descriptor} {v : ValueType} (h : d.Mirrors nameOf resourceType v) :
    v.depth = d.depth := by
  cases h with
  | primitive hkind => cases d <;> first | rfl | cases hkind
  | tag => rfl
  | ref hid => rfl
  | array helement => rw [ValueType.depth, depth, helement.depth_eq]
  | map helement => rw [ValueType.depth, depth, helement.depth_eq]
  | union hne hmembers => rw [ValueType.depth, depth, maxDepth_eq_of_mirrors hmembers]

theorem maxDepth_eq_of_mirrors {ds : List Descriptor} {vs : List ValueType}
    (h : List.Forall₂ (Mirrors nameOf resourceType) ds vs) :
    ValueType.maxDepth vs = maxDepth ds := by
  cases h with
  | nil => rfl
  | cons hfirst hrest =>
    rw [ValueType.maxDepth, maxDepth, hfirst.depth_eq, maxDepth_eq_of_mirrors hrest]

end

mutual

/-- Unions have members, at every depth. -/
theorem Mirrors.members_ne_nil {d : Descriptor} {v : ValueType}
    (h : d.Mirrors nameOf resourceType v) {members : List ValueType}
    (hmem : .unionOf members ∈ v.nodes) : members ≠ [] := by
  cases h with
  | primitive hkind => simp [ValueType.nodes] at hmem
  | tag => simp [ValueType.nodes] at hmem
  | ref hid => simp [ValueType.nodes] at hmem
  | array helement =>
    rw [ValueType.nodes, List.mem_cons] at hmem
    exact helement.members_ne_nil (hmem.resolve_left nofun)
  | map helement =>
    rw [ValueType.nodes, List.mem_cons] at hmem
    exact helement.members_ne_nil (hmem.resolve_left nofun)
  | union hne hmembers =>
    rw [ValueType.nodes, List.mem_cons, ValueType.unionOf.injEq] at hmem
    obtain rfl | hin := hmem
    · rintro rfl
      exact hne (List.forall₂_nil_right_iff.1 hmembers)
    · exact members_ne_nil_of_mirrors hmembers hin

theorem members_ne_nil_of_mirrors {ds : List Descriptor} {vs : List ValueType}
    (h : List.Forall₂ (Mirrors nameOf resourceType) ds vs) {members : List ValueType}
    (hmem : .unionOf members ∈ ValueType.nodesOfAll vs) : members ≠ [] := by
  cases h with
  | nil => simp [ValueType.nodesOfAll] at hmem
  | cons hfirst hrest =>
    rw [ValueType.nodesOfAll, List.mem_append] at hmem
    obtain hin | hin := hmem
    · exact hfirst.members_ne_nil hin
    · exact members_ne_nil_of_mirrors hrest hin

end

/-! ## Another resource -/

mutual

/-- In another resource the same shape has the same names, up to the type of the resource. -/
theorem Mirrors.requalified {d : Descriptor} {v : ValueType} (h : d.Mirrors nameOf resourceType v) :
    d.Mirrors nameOf other (v.mapNames (requalify resourceType other)) := by
  cases h with
  | primitive hkind => exact .primitive hkind
  | tag =>
    rw [ValueType.mapNames, requalify_tagTypeName]
    exact .tag
  | ref hid =>
    rw [ValueType.mapNames, requalify_qualified]
    exact .ref hid
  | array helement => exact .array helement.requalified
  | map helement => exact .map helement.requalified
  | union hne hmembers => exact .union hne (forall₂_requalified hmembers)

theorem forall₂_requalified {ds : List Descriptor} {vs : List ValueType}
    (h : List.Forall₂ (Mirrors nameOf resourceType) ds vs) :
    List.Forall₂ (Mirrors nameOf other) ds
      (ValueType.mapNamesOfAll (requalify resourceType other) vs) := by
  cases h with
  | nil => exact .nil
  | cons hfirst hrest => exact .cons hfirst.requalified (forall₂_requalified hrest)

end

/-! ## A descriptor with its earlier revisions -/

/-- What the resolved type `v` has in common with a descriptor and its earlier revisions. -/
structure KeepsShape (nameOf : String → Option String) (resourceType : String)
    (current : Descriptor) (previous : List Descriptor) (v : ValueType) : Prop where
  /-- The shape is that of the descriptor, or of the union of all revisions if there are earlier
  ones, node by node. -/
  mirrors : (current.merged previous).Mirrors nameOf resourceType v
  depth : v.depth =
    match previous with
    | [] => current.depth
    | _ :: _ => 1 + maxDepth (current :: previous)
  /-- Every union has a member. -/
  members_ne_nil : ∀ members, .unionOf members ∈ v.nodes → members ≠ []
  /-- The names are those of the tags and of the references, from left to right. -/
  names : v.names = (nodesOfAll (current :: previous)).filterMap (nodeName? nameOf resourceType)
  /-- In a resource of another type only the first part of the names of references changes. -/
  elsewhere : ∀ other, current.resolveRevisions nameOf other previous =
    .ok (v.mapNames (requalify resourceType other))

/-- **Resolving keeps the shape.** The type that a descriptor with its earlier revisions resolves to
has the nodes of the descriptors, one for one, and depends on the resource by its names only. -/
theorem resolveRevisions_keepsShape {current : Descriptor} {previous : List Descriptor}
    {v : ValueType} (h : current.resolveRevisions nameOf resourceType previous = .ok v) :
    KeepsShape nameOf resourceType current previous v := by
  have hmirrors : (current.merged previous).Mirrors nameOf resourceType v := by
    rw [← resolve_eq_ok_iff, ← resolveRevisions_eq_resolve_merged, h]
  constructor
  case mirrors => exact hmirrors
  case depth =>
    rw [hmirrors.depth_eq]
    cases previous <;> rfl
  case members_ne_nil =>
    intro members hmem
    exact hmirrors.members_ne_nil hmem
  case names => exact names_of_resolveRevisions nameOf resourceType h
  case elsewhere =>
    intro other
    rw [resolveRevisions_eq_resolve_merged, hmirrors.requalified.resolve_eq]

/-- A list of rules that was a tag or of an unknown kind before. -/
theorem resolveRevisions_keepsShape_rules : ∃ v,
    (array (.ref "t")).resolveRevisions (fun id => if id = "t" then some "Rule" else none)
      "AWS::S3::Bucket" [.union [.tag, .unknown]] = .ok v ∧
    KeepsShape (fun id => if id = "t" then some "Rule" else none) "AWS::S3::Bucket"
      (.array (.ref "t")) [.union [.tag, .unknown]] v :=
  ⟨_, rfl, resolveRevisions_keepsShape rfl⟩

end Descriptor

end ConstructSchema
