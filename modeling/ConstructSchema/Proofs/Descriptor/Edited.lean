import ConstructSchema.Proofs.Descriptor.Contents
import ConstructSchema.Proofs.Descriptor.Defects
import ConstructSchema.Proofs.Descriptor.Positions

/-!
Values of descriptors with one object replaced.

The path to a part of a descriptor leads also through the value it was decoded from, branch by
branch. Decoding is made up of the decoding of the parts, so with another object at the end of a
path the value decodes to the descriptor with what that object decodes to in its place
(`ofJson_put`). Together with `resolve_put` this says what an edit of one object does to the
resolved type, whatever stands around it (`resolve_edited_object`).
-/

namespace ConstructSchema

namespace Json

/-- The item at a position of an array. -/
def item? (i : Nat) : Json → Option Json
  | .array items => items[i]?
  | _ => none

/-- The array with the item at a position changed. -/
def modifyItem (f : Json → Json) (i : Nat) : Json → Json
  | .array items => .array (items.modify i f)
  | j => j

/-- The value that a branch leads to. -/
def part? (j : Json) : Branch → Option Json
  | .element => j.contents? "element"
  | .type i => (j.contents? "types").bind (item? i)

/-- The value with what a branch leads to changed. -/
def modifyPart (f : Json → Json) (j : Json) : Branch → Json
  | .element => j.modifyContents "element" f
  | .type i => j.modifyContents "types" (modifyItem f i)

/-- The value of the descriptor at the end of a path. -/
def descriptorAt? (j : Json) : List Branch → Option Json
  | [] => some j
  | branch :: path => (j.part? branch).bind fun part => part.descriptorAt? path

/-- The value with `new` in place of that of the descriptor at the end of a path. -/
def putDescriptor (new j : Json) : List Branch → Json
  | [] => new
  | branch :: path => j.modifyPart (fun part => putDescriptor new part path) branch

end Json

namespace Descriptor

open Json (Emptied descriptorAt? putDescriptor)

variable {nested : Bool} {j : Json} {d : Descriptor}

/-! ## Decoding along a path -/

/-- A part of a descriptor is decoded from the part of the value that the branch leads to, and with
another value there it is decoded from that one. -/
theorem exists_part (h : ofJson nested j = .ok d) {branch : Branch} {child : Descriptor}
    (hchild : d.LeadsTo branch child) :
    ∃ part, j.part? branch = some part ∧ ofJson true part = .ok child ∧
      ∀ (f : Json → Json) (new : Descriptor) (path : List Branch),
        ofJson true (f part) = .ok (put new child path) →
          ofJson nested (j.modifyPart f branch) = .ok (put new d (branch :: path)) := by
  cases hchild with
  | array =>
    obtain ⟨value, hvalue, hcontents, hmodify⟩ := exists_contents .array h rfl nofun
    refine ⟨value, hvalue, ofContents_array_eq_ok_iff.1 hcontents, fun f new path hf => ?_⟩
    exact hmodify f _ (ofContents_array_eq_ok_iff.2 hf)
  | map =>
    obtain ⟨value, hvalue, hcontents, hmodify⟩ := exists_contents .map h rfl nofun
    refine ⟨value, hvalue, ofContents_map_eq_ok_iff.1 hcontents, fun f new path hf => ?_⟩
    exact hmodify f _ (ofContents_map_eq_ok_iff.2 hf)
  | @union types i type htype =>
    obtain ⟨value, hvalue, hcontents, hmodify⟩ := exists_contents .union h rfl nofun
    obtain ⟨items, rfl, hitems⟩ := ofContents_union_eq_ok_iff.1 hcontents
    obtain ⟨item, hitem, hdecode⟩ := (getElem?_iff_of_mapM hitems).1 htype
    have hfield : j.contents? "types" = some (.array items) := hvalue
    refine ⟨item, by rw [Json.part?, hfield, Option.bind_some, Json.item?, hitem], hdecode,
      fun f new path hf => ?_⟩
    refine hmodify (Json.modifyItem f i) _ (ofContents_union_eq_ok_iff.2 ⟨_, rfl, ?_⟩)
    rw [mapM_modify hitems hitem, hf]
    simp [Except.map, List.modify_eq_set_getElem?, htype]

/-- **One value replaced.** Where a descriptor has a part its value has one that decodes to it, and
with another value there it decodes to the descriptor with the other value's in place of the part.
Only at the root may the value stand outside of every descriptor. -/
theorem ofJson_put (h : ofJson nested j = .ok d) {path : List Branch} {t : Descriptor}
    (ht : d.at? path = some t) :
    ∃ old, j.descriptorAt? path = some old ∧ ofJson (nested || !path.isEmpty) old = .ok t ∧
      ∀ value new, ofJson (nested || !path.isEmpty) value = .ok new →
        ofJson nested (putDescriptor value j path) = .ok (put new d path) := by
  induction path generalizing nested j d with
  | nil =>
    rw [at?, Option.some.injEq] at ht
    subst ht
    refine ⟨j, rfl, by simpa using h, fun value new hnew => ?_⟩
    rw [putDescriptor, put]
    simpa using hnew
  | cons branch path ih =>
    obtain ⟨child, hchild, hpart⟩ := exists_leadsTo_of_at? ht
    obtain ⟨part, hat, hdecode, hmodify⟩ := exists_part h hchild
    obtain ⟨old, hold, hdecodes, hput⟩ := ih hdecode hpart
    -- Behind a branch the value stands within a descriptor, whatever stands around the root.
    simp only [Bool.true_or] at hdecodes hput
    refine ⟨old, by rw [descriptorAt?, hat, Option.bind_some, hold], by simpa using hdecodes,
      fun value new hnew => ?_⟩
    rw [putDescriptor]
    exact hmodify _ new path (hput value new (by simpa using hnew))

/-! ## Kinds without a name -/

/-- The names of the kinds that are known. -/
def Kind.knownNames : List String :=
  ["string", "boolean", "number", "integer", "date-time", "json", "ref", "array", "map", "tag",
    "union", "null"]

theorem Kind.ofName_eq_unknown {name : String} (h : name ∉ Kind.knownNames) :
    Kind.ofName name = .unknown := by
  rw [Kind.ofName]
  cases hfind : Kind.all.find? (·.name = name) with
  | none => rfl
  | some kind =>
    have hname : kind.name = name := by simpa using List.find?_some hfind
    subst hname
    cases kind with
    | unknown => rfl
    | _ => exact absurd (by decide) h

/-- An object whose kind is not known decodes whatever else it holds. -/
theorem ofJson_of_unknown {members : List (String × Json)} {name : String}
    (hname : name ∉ Kind.knownNames)
    (htype : members.filter (·.1 = "type") = [("type", .string name)])
    (husable : (Json.object members).usable = true) :
    ofJson nested (.object members) = .ok .unknown := by
  rw [Json.usable, Json.usableMembers_iff] at husable
  have hkind : Kind.ofMembers nested none members = .ok .unknown :=
    Kind.ofMembers_none_eq_ok_iff.2 ⟨fun m hm _ => husable m hm, .string name, htype, by
      rw [Kind.ofTag, Kind.ofName_eq_unknown hname]⟩
  rw [ofJson_object, hkind]
  rfl

/-! ## Edits of an object -/

/-- **One object edited.** Take a value that decodes, and an object in it that holds a descriptor.
If the object gets a kind that is not known, with whatever else in it, the value decodes and
resolves as before, but to any type where the object stands. If it holds a container and loses its
contents, the value decodes, and resolving fails as for that container without contents. -/
theorem resolve_edited_object {path : List Branch} {t : Descriptor} {members : List (String × Json)}
    (hd : ofJson nested j = .ok d) (ht : d.at? path = some t)
    (ho : j.descriptorAt? path = some (.object members)) :
    (∀ (name : String) (members' : List (String × Json)), name ∉ Kind.knownNames →
      members'.filter (·.1 = "type") = [("type", .string name)] →
      (Json.object members').usable = true →
      ∃ d', ofJson nested (putDescriptor (.object members') j path) = .ok d' ∧
        ∀ nameOf resourceType v, d.resolve nameOf resourceType = .ok v →
          ∃ old, v.at? path = some old ∧
            d'.resolve nameOf resourceType = .ok (ValueType.put (.primitive .any) v path)) ∧
    ∀ (container : Container) (members' : List (String × Json)),
      t.kind = .ofContainer container → Emptied container.field members members' →
      ∃ d', ofJson nested (putDescriptor (.object members') j path) = .ok d' ∧
        ∀ nameOf resourceType v, d.resolve nameOf resourceType = .ok v →
          ∃ failure, d'.resolve nameOf resourceType = .error failure ∧
            (bare container).ReportedAs (Leads nameOf) resourceType failure failure.message := by
  obtain ⟨old, hold, hdecode, hput⟩ := ofJson_put hd ht
  obtain rfl : .object members = old := Option.some.inj (ho.symm.trans hold)
  constructor
  · intro name members' hname htype husable
    refine ⟨put .unknown d path, hput _ _ (ofJson_of_unknown hname htype husable), ?_⟩
    intro nameOf resourceType v hv
    obtain ⟨old, hat, hresolve⟩ := resolve_put hv ht .unknown
    exact ⟨old, hat, hresolve⟩
  · intro container members' hkind hemptied
    refine ⟨put (.bare container) d path, hput _ _ (ofJson_of_emptied hdecode hkind hemptied), ?_⟩
    intro nameOf resourceType v hv
    obtain ⟨old, -, hresolve⟩ := resolve_put hv ht (.bare container)
    exact ⟨.malformedType resourceType container, hresolve,
      (nodeFailure?_eq_some_iff nameOf resourceType).1 rfl⟩

/-- In a union of lists of texts, a list of a kind that is not known becomes any type, and a list
without an element is reported. -/
theorem resolve_edited_object_list :
    (∃ d', ofJson false (putDescriptor (.object [("type", .string "quantum"), ("element", .null)])
        (union [.array .string]).toJson [.type 0]) = .ok d' ∧
      d'.resolve (fun _ => none) "T" = .ok (.unionOf [.primitive .any])) ∧
    ∃ d', ofJson false (putDescriptor (.object [("type", .string "array")])
        (union [.array .string]).toJson [.type 0]) = .ok d' ∧
      ∃ failure, d'.resolve (fun _ => none) "T" = .error failure ∧
        (bare .array).ReportedAs (Leads fun _ => none) "T" failure failure.message := by
  have hd : ofJson false (union [.array .string]).toJson = .ok (union [.array .string]) := rfl
  have ht : (union [.array .string]).at? [.type 0] = some (.array .string) := rfl
  obtain ⟨hunknown, hemptied⟩ := resolve_edited_object hd ht rfl
  constructor
  · obtain ⟨d', hd', hresolve⟩ := hunknown "quantum"
      [("type", .string "quantum"), ("element", .null)] (by decide) rfl rfl
    obtain ⟨_, -, htype⟩ := hresolve (fun _ => none) "T" _ rfl
    exact ⟨d', hd', htype⟩
  · obtain ⟨d', hd', hresolve⟩ := hemptied .array [("type", .string "array")] rfl ⟨rfl, .inl rfl⟩
    exact ⟨d', hd', hresolve (fun _ => none) "T" _ rfl⟩

end Descriptor

end ConstructSchema
