import ConstructSchema.Fault

/-!
Records: a fixed set of named fields, read from the members of a document.

A decoder asks for each field by its name and decodes it once; `check` then walks the members in
the order of the document and reports the first fault it meets, so the order in which the decoder
asked does not matter. Members that belong to no field are skipped, provided they can be. Only
after that walk are fields that are not there reported, in the order in which they are asked for.
-/

namespace ConstructSchema

/-- The members of a record as they stand in a document whose values are of type `V`. -/
structure Record (V : Type) where
  members : List (String × V)
  /-- The fields were given by position, without names. -/
  positional : Bool
  /-- There were more positions than fields. -/
  overlong : Bool

namespace Record

variable {V α : Type}

/-- The record whose fields are given by name. -/
def named (members : List (String × V)) : Record V :=
  ⟨members, false, false⟩

/-- The record whose fields are given in the order of `names`. -/
def byPosition (names : List String) (values : List V) : Record V :=
  ⟨names.zip values, true, names.length < values.length⟩

/-- The decoded field of a name, if a member has that name. -/
def field (r : Record V) (name : String) (decode : V → Except Fault α) :
    Option (Except Fault α) :=
  (r.members.lookup name).map decode

/-- The fault of a field, if it is there and did not decode. -/
def faultOf : Option (Except Fault α) → Option Fault
  | some (.error fault) => some fault
  | _ => none

/-- The first fault of the members, in their order, when the names in `seen` stood before. -/
def checkMembers (skippable : V → Bool) (known : List (String × Option Fault)) :
    List String → List (String × V) → Except Fault Unit
  | _, [] => .ok ()
  | seen, (name, value) :: rest =>
    match known.lookup name with
    | none => if skippable value then checkMembers skippable known seen rest else .error .malformed
    | some fault =>
      if name ∈ seen then .error (.duplicateField name)
      else match fault with
        | some fault => .error fault
        | none => checkMembers skippable known (name :: seen) rest

/-- The first fault of a record whose fields are `known`, each with its own fault. -/
def check (r : Record V) (skippable : V → Bool) (known : List (String × Option Fault)) :
    Except Fault Unit :=
  match checkMembers skippable known [] r.members with
  | .error fault => .error fault
  | .ok () => if r.overlong then .error .malformed else .ok ()

/-- The value of a field that has to be there. -/
def required (r : Record V) (name : String) : Option (Except Fault α) → Except Fault α
  | some value => value
  | none => .error (if r.positional then .malformed else .missingField name)

/-- The value of a field that may be left out. -/
def optional (default : α) : Option (Except Fault α) → Except Fault α
  | some value => value
  | none => .ok default

end Record

end ConstructSchema
