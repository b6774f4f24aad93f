import ConstructSchema.Proofs.Descriptor.Nodes

/-!
Positions in descriptors and in value types.

A position is a path of branches from the root. As resolving keeps the shape, the same path leads to
a part of a descriptor and to what that part resolves to. So a part can be replaced on both sides:
the descriptor with a new part resolves to the old type with the new part's type in its place, and
it fails as the new part does (`resolve_put`).
-/

namespace ConstructSchema

/-- A way from a descriptor, or from a value type, to one that it holds. -/
inductive Branch where
  /-- To the element of an array or map. -/
  | element
  /-- To the type at a position of a union, counted from zero. -/
  | type (position : Nat)
  deriving DecidableEq, Repr

namespace ValueType

/-- The part of a value type at the end of a path. -/
def at? : ValueType → List Branch → Option ValueType
  | v, [] => some v
  | .listOf element, .element :: path | .mapOf element, .element :: path => element.at? path
  | .unionOf members, .type i :: path => members[i]?.bind fun member => member.at? path
  | _, _ :: _ => none

/-- The value type with `new` in place of the part at the end of a path, and all else as it is. -/
def put (new : ValueType) : ValueType → List Branch → ValueType
  | _, [] => new
  | .listOf element, .element :: path => .listOf (put new element path)
  | .mapOf element, .element :: path => .mapOf (put new element path)
  | .unionOf members, .type i :: path =>
    .unionOf (members.modify i fun member => put new member path)
  | v, _ :: _ => v

end ValueType

namespace Descriptor

/-- The part of a descriptor at the end of a path. -/
def at? : Descriptor → List Branch → Option Descriptor
  | d, [] => some d
  | .array element, .element :: path | .map element, .element :: path => element.at? path
  | .union types, .type i :: path => types[i]?.bind fun type => type.at? path
  | _, _ :: _ => none

/-- The descriptor with `new` in place of the part at the end of a path, and all else as it is. -/
def put (new : Descriptor) : Descriptor → List Branch → Descriptor
  | _, [] => new
  | .array element, .element :: path => .array (put new element path)
  | .map element, .element :: path => .map (put new element path)
  | .union types, .type i :: path => .union (types.modify i fun type => put new type path)
  | d, _ :: _ => d

/-- What a branch leads to. -/
inductive LeadsTo : Descriptor → Branch → Descriptor → Prop
  | array (element : Descriptor) : LeadsTo (.array element) .element element
  | map (element : Descriptor) : LeadsTo (.map element) .element element
  | union {types : List Descriptor} {i : Nat} {type : Descriptor} : types[i]? = some type →
    LeadsTo (.union types) (.type i) type

/-- A path starts with a branch, and goes on from where that leads to. -/
theorem exists_leadsTo_of_at? {d t : Descriptor} {branch : Branch} {path : List Branch}
    (h : d.at? (branch :: path) = some t) : ∃ child, d.LeadsTo branch child ∧
      child.at? path = some t := by
  cases branch with
  | element =>
    cases d with
    | array element => exact ⟨element, .array element, h⟩
    | map element => exact ⟨element, .map element, h⟩
    | _ => cases h
  | type i =>
    cases d with
    | union types =>
      obtain ⟨type, htype, ht⟩ := Option.bind_eq_some_iff.1 h
      exact ⟨type, .union htype, ht⟩
    | _ => cases h

variable {nameOf : String → Option String} {resourceType : String}

theorem resolve_union {types : List Descriptor} (h : types ≠ []) :
    (union types).resolve nameOf resourceType =
      (resolveAll nameOf resourceType types).map .unionOf := by
  cases types with
  | nil => exact absurd rfl h
  | cons first rest => simp only [resolve]

theorem resolveAll_eq_mapM (ds : List Descriptor) :
    resolveAll nameOf resourceType ds = ds.mapM (resolve nameOf resourceType) := by
  induction ds with
  | nil => rfl
  | cons first rest ih =>
    rw [resolveAll, List.mapM_cons, ih]
    cases first.resolve nameOf resourceType with
    | error failure => rfl
    | ok member => cases rest.mapM (resolve nameOf resourceType) <;> rfl

/-- **One part replaced.** Where a descriptor has a part its type has one, and with a new part the
descriptor resolves as the new part does, all else staying as it is. -/
theorem resolve_put {d t : Descriptor} {v : ValueType} {path : List Branch}
    (h : d.resolve nameOf resourceType = .ok v) (ht : d.at? path = some t) (new : Descriptor) :
    ∃ old, v.at? path = some old ∧
      (put new d path).resolve nameOf resourceType =
        (new.resolve nameOf resourceType).map fun w => ValueType.put w v path := by
  induction path generalizing d v with
  | nil =>
    refine ⟨v, by rw [ValueType.at?], ?_⟩
    rw [put]
    cases new.resolve nameOf resourceType with
    | error failure => rfl
    | ok w => rw [Except.map, ValueType.put]
  | cons branch path ih =>
    obtain ⟨child, hchild, hpart⟩ := exists_leadsTo_of_at? ht
    cases hchild with
    | array | map =>
      obtain ⟨e, helement, rfl⟩ := map_eq_ok_iff.1 h
      obtain ⟨old, hold, hput⟩ := ih helement hpart
      refine ⟨old, hold, ?_⟩
      rw [put, resolve, hput]
      cases new.resolve nameOf resourceType <;> rfl
    | @union types i _ htype =>
      have hne : types ≠ [] := by
        rintro rfl
        cases htype
      rw [resolve_union hne, resolveAll_eq_mapM] at h
      obtain ⟨members, hmembers, rfl⟩ := map_eq_ok_iff.1 h
      obtain ⟨member, hresolve⟩ := exists_of_mapM hmembers (List.mem_of_getElem? htype)
      have hmember := (getElem?_iff_of_mapM hmembers).2 ⟨_, htype, hresolve⟩
      obtain ⟨old, hold, hput⟩ := ih hresolve hpart
      refine ⟨old, by rw [ValueType.at?, hmember, Option.bind_some, hold], ?_⟩
      rw [put, resolve_union (by simpa using hne), resolveAll_eq_mapM, mapM_modify hmembers htype,
        hput]
      cases new.resolve nameOf resourceType with
      | error failure => rfl
      | ok w => simp [Except.map, ValueType.put, List.modify_eq_set_getElem?, hmember]

end Descriptor

end ConstructSchema
