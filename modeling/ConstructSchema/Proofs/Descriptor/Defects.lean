import ConstructSchema.Proofs.Descriptor.Nodes

/-!
The first defect of a descriptor.

Resolving a descriptor with its earlier revisions succeeds exactly when none of their nodes is
defective. Otherwise the failure is that of the first defective node, where the nodes of the current
descriptor come before those of the earlier ones and a parent before its parts
(`resolveRevisions_ok_or_first_defect`). `ReportedAs` gives the failure of each kind of defect and
its text. To resolve a descriptor with its history is to resolve one union, so the first defect is
the same for both.
-/

namespace ConstructSchema.Descriptor

/-- The failure that a defective node of a resource of the type `resourceType` causes, and the text
that reports it, where `named` says which ids lead to a name. -/
inductive ReportedAs (named : String → Prop) (resourceType : String) :
    Descriptor → Failure → String → Prop
  | bareArray : ReportedAs named resourceType (.bare .array) (.malformedType resourceType .array)
      ("Malformed type in " ++ resourceType ++ ": " ++ "Expected array type with element")
  | bareMap : ReportedAs named resourceType (.bare .map) (.malformedType resourceType .map)
      ("Malformed type in " ++ resourceType ++ ": " ++ "Expected map type with element")
  | bareUnion : ReportedAs named resourceType (.bare .union) (.malformedType resourceType .union)
      ("Malformed type in " ++ resourceType ++ ": " ++ "Expected union type with types")
  | emptyUnion : ReportedAs named resourceType (.union []) (.malformedType resourceType .union)
      ("Malformed type in " ++ resourceType ++ ": " ++ "Expected union type with types")
  | unnamed (id : String) : ¬ named id →
      ReportedAs named resourceType (.ref id) (.missingReference resourceType id)
        ("Reference type name not found: " ++ id ++ " (referenced from " ++ resourceType ++ ")")

variable (nameOf : String → Option String) (resourceType : String)

/-- An id that leads to a name. -/
def Leads (id : String) : Prop := ∃ name, nameOf id = some name

/-- A node causes the failure that it is reported as. -/
theorem nodeFailure?_eq_some_iff {d : Descriptor} {failure : Failure} :
    nodeFailure? nameOf resourceType d = some failure ↔
      d.ReportedAs (Leads nameOf) resourceType failure failure.message := by
  constructor
  · intro h
    cases d with
    | ref id =>
      cases hid : nameOf id with
      | some name => simp [nodeFailure?, hid] at h
      | none =>
        obtain rfl : .missingReference resourceType id = failure := by
          simpa [nodeFailure?, hid] using h
        exact .unnamed id (by simp [Leads, hid])
    | union types =>
      cases types with
      | nil =>
        cases h
        exact .emptyUnion
      | cons first rest => cases h
    | bare container =>
      cases h
      cases container with
      | array => exact .bareArray
      | map => exact .bareMap
      | union => exact .bareUnion
    | _ => cases h
  · generalize failure.message = text
    intro h
    cases h with
    | unnamed id hid =>
      have hnone : nameOf id = none := by simpa [Leads, Option.eq_none_iff_forall_ne_some] using hid
      simp [nodeFailure?, hnone]
    | _ => rfl

/-- **The outcome for a descriptor with its earlier revisions.** It succeeds exactly if no node is
defective. It fails as its first defective node is reported. A descriptor with earlier revisions has
the outcome of the union of all of them. -/
theorem resolveRevisions_ok_or_first_defect (current : Descriptor) (previous : List Descriptor) :
    ((∃ v, current.resolveRevisions nameOf resourceType previous = .ok v) ↔
      ∀ node ∈ nodesOfAll (current :: previous), ¬ node.Defective (Leads nameOf)) ∧
    (∀ failure, current.resolveRevisions nameOf resourceType previous = .error failure ↔
      ∃ before node after, nodesOfAll (current :: previous) = before ++ node :: after ∧
        node.ReportedAs (Leads nameOf) resourceType failure failure.message ∧
        ∀ earlier ∈ before, ¬ earlier.Defective (Leads nameOf)) ∧
    ∀ first rest, current.resolveRevisions nameOf resourceType (first :: rest) =
      (union (current :: first :: rest)).resolveRevisions nameOf resourceType [] := by
  have hsound {d : Descriptor} :
      nodeFailure? nameOf resourceType d = none ↔ ¬ d.Defective (Leads nameOf) :=
    nodeFailure?_eq_none_iff nameOf resourceType fun _ => Iff.rfl
  refine ⟨?_, fun failure => ?_, fun first rest => rfl⟩
  · rw [← failureOf_eq_none_iff, failureOf_resolveRevisions, List.findSome?_eq_none_iff]
    simp only [hsound]
  · rw [← failureOf_eq_some_iff, failureOf_resolveRevisions, List.findSome?_eq_some_iff]
    simp only [nodeFailure?_eq_some_iff, hsound]

/-- The current descriptor is looked at before the earlier one, and the parts of a union from left
to right. -/
example : (array (.union [.string, .ref "gone", .bare .map])).resolveRevisions (fun _ => none) "R"
    [.bare .array] = .error (.missingReference "R" "gone") := rfl

end ConstructSchema.Descriptor
