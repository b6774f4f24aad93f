import ConstructSchema.Descriptor.Json
import ConstructSchema.Proofs.Json.Order

/-!
Descriptors, encoded and decoded.

A descriptor is decoded in two steps: its kind is selected by all members (`Kind.ofMembers`), and
then the fields of the kind are decoded (`ofFields`). Neither depends on the order of the members
(`orderFree`). Encoding writes the kind and its fields, so decoding gives the descriptor back,
whatever order the members were put into (`ofJson_toJson`).
-/

namespace ConstructSchema

namespace Json

theorem usableItems_iff {items : List Json} :
    usableItems items = true ↔ ∀ item ∈ items, item.usable = true := by
  induction items with
  | nil => simp [usableItems]
  | cons item rest ih => simp [usableItems, ih]

theorem usableMembers_iff {members : List (String × Json)} :
    usableMembers members = true ↔ ∀ m ∈ members, m.2.usable = true := by
  induction members with
  | nil => simp [usableMembers]
  | cons m rest ih => rw [usableMembers, Bool.and_eq_true, ih, List.forall_mem_cons]

end Json

namespace Descriptor

open Json (OrderFree Arranges)

variable {nested : Bool}

/-! ## The kind -/

/-- Behind the member `type` there is no other of this name, and all members can be used. -/
theorem Kind.ofMembers_some_eq_ok_iff {found kind : Kind} {members : List (String × Json)} :
    Kind.ofMembers nested (some found) members = .ok kind ↔
      found = kind ∧ ∀ m ∈ members, m.1 ≠ "type" ∧ m.2.usable = true := by
  induction members with
  | nil => simp [Kind.ofMembers]
  | cons m rest ih =>
    obtain ⟨name, value⟩ := m
    rw [Kind.ofMembers, List.forall_mem_cons]
    by_cases hname : name = "type"
    · simp [hname]
    · by_cases husable : value.usable = true
      · simp only [hname, if_false, husable, if_true, ih, ne_eq, not_false_eq_true, true_and]
      · simp [hname, husable]

/-- The kind is that of the one member `type`, if all others can be used. -/
theorem Kind.ofMembers_none_eq_ok_iff {kind : Kind} {members : List (String × Json)} :
    Kind.ofMembers nested none members = .ok kind ↔
      (∀ m ∈ members, m.1 ≠ "type" → m.2.usable = true) ∧
        ∃ tag, members.filter (·.1 = "type") = [("type", tag)] ∧
          Kind.ofTag nested tag = .ok kind := by
  induction members with
  | nil => simp [Kind.ofMembers]
  | cons m rest ih =>
    obtain ⟨name, value⟩ := m
    rw [Kind.ofMembers, List.forall_mem_cons, List.filter_cons]
    by_cases hname : name = "type"
    · subst hname
      have hrest : rest.filter (·.1 = "type") = [] ↔ ∀ m ∈ rest, m.1 ≠ "type" := by
        simp [List.filter_eq_nil_iff]
      cases htag : Kind.ofTag nested value with
      | error fault => simp [htag]
      | ok found =>
        simp only [if_true, Kind.ofMembers_some_eq_ok_iff, decide_true, List.cons.injEq,
          Prod.mk.injEq, true_and, hrest, ne_eq, not_true_eq_false, false_implies]
        constructor
        · rintro ⟨rfl, hall⟩
          exact ⟨fun m hm _ => (hall m hm).2, value, ⟨rfl, fun m hm => (hall m hm).1⟩, htag⟩
        · rintro ⟨husable, tag, ⟨rfl, hnone⟩, hkind⟩
          rw [htag, Except.ok.injEq] at hkind
          exact ⟨hkind, fun m hm => ⟨hnone m hm, husable m hm (hnone m hm)⟩⟩
    · by_cases husable : value.usable = true
      · simp only [hname, if_false, husable, if_true, ih, decide_false, Bool.false_eq_true, ne_eq,
          not_false_eq_true, true_implies, true_and]
      · simp [hname, husable]

theorem Kind.ofMembers_perm {members members' : List (String × Json)}
    (h : members.Perm members') {kind : Kind}
    (hkind : Kind.ofMembers nested none members = .ok kind) :
    Kind.ofMembers nested none members' = .ok kind := by
  rw [Kind.ofMembers_none_eq_ok_iff] at hkind ⊢
  obtain ⟨husable, tag, htag, hkind⟩ := hkind
  have hperm := h.filter fun m => m.1 = "type"
  rw [htag, List.singleton_perm] at hperm
  exact ⟨fun m hm => husable m (h.mem_iff.2 hm), tag, hperm.symm, hkind⟩

/-! ## The fields of a kind -/

theorem elementAmong_eq_field (members : List (String × Json)) :
    elementAmong members =
      (Record.named members).field "element" (Json.nullable (ofJson true)) := by
  induction members with
  | nil => rfl
  | cons m rest ih =>
    obtain ⟨name, value⟩ := m
    rw [Record.field_named_cons, ← ih]
    by_cases hname : "element" = name
    · subst hname
      cases value <;> simp [elementAmong, Json.nullable]
    · cases value <;> simp [elementAmong, hname, Ne.symm hname]

theorem ofJsonList_eq_mapM (items : List Json) : ofJsonList items = items.mapM (ofJson true) := by
  induction items with
  | nil => rfl
  | cons item rest ih => rw [ofJsonList, ih, List.mapM_cons]

theorem typesAmong_eq_field (members : List (String × Json)) :
    typesAmong members =
      (Record.named members).field "types" (Json.nullable (Json.listOf (ofJson true))) := by
  induction members with
  | nil => rfl
  | cons m rest ih =>
    obtain ⟨name, value⟩ := m
    rw [Record.field_named_cons, ← ih]
    by_cases hname : "types" = name
    · subst hname
      cases value <;> simp [typesAmong, Json.nullable, Json.listOf, ofJsonList_eq_mapM, Except.map]
    · cases value <;> simp [typesAmong, hname, Ne.symm hname]

/-- The descriptor of a kind whose fields stand among named members. -/
def ofFields (members : List (String × Json)) : Kind → Except Fault Descriptor
  | .ref => do
    let reference := (Record.named members).field "reference" referenceOfJson
    Json.checkFields (.named members) [("reference", Record.faultOf reference)]
    let id ← (Record.named members).required "reference" reference
    return .ref id
  | .array => (onlyField members "element"
      ((Record.named members).field "element" (Json.nullable (ofJson true)))).map
        (ofElement .array .array)
  | .map => (onlyField members "element"
      ((Record.named members).field "element" (Json.nullable (ofJson true)))).map
        (ofElement .map .map)
  | .union => (onlyField members "types" ((Record.named members).field "types"
      (Json.nullable (Json.listOf (ofJson true))))).map ofTypes
  | kind => .ok (ofPlainKind kind)

/-- A descriptor with named members is that of the kind they select. -/
theorem ofJson_object (members : List (String × Json)) :
    ofJson nested (.object members) = Kind.ofMembers nested none members >>= ofFields members := by
  rw [ofJson, elementAmong_eq_field, typesAmong_eq_field]
  cases Kind.ofMembers nested none members with
  | error fault => rfl
  | ok kind => cases kind <;> rfl

theorem ofFields_perm {members members' : List (String × Json)} (h : members.Perm members')
    (hnodup : (members.map (·.1)).Nodup) {kind : Kind} {d : Descriptor}
    (hd : ofFields members kind = .ok d) : ofFields members' kind = .ok d := by
  cases kind with
  | ref =>
    simp only [ofFields, Record.required_named, Record.field_named_perm h hnodup] at hd ⊢
    exact Json.checkFields_bind_perm h hd
  | array | map | union =>
    rw [ofFields, map_eq_ok_iff] at hd ⊢
    obtain ⟨contents, hcontents, rfl⟩ := hd
    refine ⟨contents, ?_, rfl⟩
    rw [onlyField, Record.field_named_perm h hnodup] at hcontents
    exact Json.checkFields_bind_perm h hcontents
  | _ => exact hd

theorem orderFree : OrderFree (ofJson nested) := by
  intro members members' h hnodup d hd
  rw [ofJson_object, bind_eq_ok_iff] at hd ⊢
  obtain ⟨kind, hkind, hd⟩ := hd
  exact ⟨kind, Kind.ofMembers_perm h hkind, ofFields_perm h hnodup hd⟩

/-! ## Encoded descriptors -/

theorem usable_of_ofTag {tag : Json} {kind : Kind} (h : Kind.ofTag nested tag = .ok kind) :
    tag.usable = true := by
  cases tag <;> first | rfl | cases h

/-- Members that select a kind can be used. -/
theorem usable_of_ofMembers {members : List (String × Json)} {kind : Kind}
    (h : Kind.ofMembers nested none members = .ok kind) : ∀ m ∈ members, m.2.usable = true := by
  intro m hm
  obtain ⟨husable, tag, hfilter, htag⟩ := Kind.ofMembers_none_eq_ok_iff.1 h
  by_cases hname : m.1 = "type"
  · have hmem : m ∈ members.filter (·.1 = "type") := List.mem_filter.2 ⟨hm, by simp [hname]⟩
    rw [hfilter, List.mem_singleton] at hmem
    rw [hmem]
    exact usable_of_ofTag htag
  · exact husable m hm hname

/-- What decodes to a descriptor can be used in all its parts. -/
theorem usable_of_ofJson {j : Json} {d : Descriptor} (h : ofJson nested j = .ok d) :
    j.usable = true := by
  cases j with
  | object members =>
    rw [ofJson_object, bind_eq_ok_iff] at h
    obtain ⟨kind, hkind, _⟩ := h
    rw [Json.usable, Json.usableMembers_iff]
    exact usable_of_ofMembers hkind
  | array items =>
    cases items with
    | nil => cases h
    | cons first rest =>
      rw [ofJson] at h
      cases htag : Kind.ofTag nested first with
      | error fault => simp [htag] at h
      | ok kind =>
        by_cases hrest : Json.usableItems rest = true
        · rw [Json.usable, Json.usableItems, usable_of_ofTag htag, hrest]
          rfl
        · simp [htag, hrest] at h
  | _ => cases h

/-- Null is no descriptor, so what decodes to one is there. -/
theorem nullable_ofJson {j : Json} {d : Descriptor} (h : ofJson true j = .ok d) :
    Json.nullable (ofJson true) j = .ok (some d) := by
  cases j <;> first | cases h | simp [Json.nullable, h, Except.map]

theorem usable_of_ofJsonList {items : List Json} {ds : List Descriptor}
    (h : ofJsonList items = .ok ds) : (Json.array items).usable = true := by
  rw [ofJsonList_eq_mapM] at h
  rw [Json.usable, Json.usableItems_iff]
  intro item hitem
  obtain ⟨d, hd⟩ := exists_of_mapM h hitem
  exact usable_of_ofJson hd

theorem nullable_ofJsonList {items : List Json} {ds : List Descriptor}
    (h : ofJsonList items = .ok ds) :
    Json.nullable (Json.listOf (ofJson true)) (.array items) = .ok (some ds) := by
  simp [Json.nullable, Json.listOf, ← ofJsonList_eq_mapM, h, Except.map]

/-- The name of a kind selects it. -/
@[simp] theorem Kind.ofTag_name (nested : Bool) (kind : Kind) :
    Kind.ofTag nested (.string kind.name) = .ok kind := by
  cases kind <;> rfl

/-- A kind with the one field that holds the rest of it. -/
theorem ofJson_pair {kind : Kind} {name : String} {value : Json} (hname : name ≠ "type")
    (husable : value.usable = true) :
    ofJson nested (.object [("type", .string kind.name), (name, value)]) =
      ofFields [("type", .string kind.name), (name, value)] kind := by
  simp [ofJson_object, Kind.ofMembers, hname, husable]

theorem onlyField_pair {α : Type} {tag name : String} {value : Json}
    {decode : Json → Except Fault (Option α)} {a : Option α} (hname : name ≠ "type")
    (hvalue : decode value = .ok a) :
    onlyField [("type", .string tag), (name, value)] name
      ((Record.named [("type", .string tag), (name, value)]).field name decode) = .ok a := by
  have hfield : (Record.named [("type", .string tag), (name, value)]).field name decode =
      some (.ok a) := by
    simp [hname, hvalue, Record.field, Record.named, lookup_cons_eq_ite]
  have hcheck : Record.checkMembers Json.skippableMember [(name, none)] []
      [("type", .string tag), (name, value)] = .ok () := by
    simp [Record.checkMembers, lookup_cons_eq_ite, hname.symm, Json.skippableMember, Json.skippable]
  rw [onlyField, hfield, Record.faultOf_ok, Json.checkFields, Record.check, Record.named, hcheck]
  rfl

theorem toJsonList_eq_map (ds : List Descriptor) : toJsonList ds = ds.map toJson := by
  induction ds with
  | nil => rfl
  | cons first rest ih => rw [toJsonList, ih, List.map_cons]

/-- An encoded descriptor is an object whose member `type` holds the name of its kind. -/
theorem lookup_type_toJson {f : Json → Json} (hf : Arranges f) (d : Descriptor) :
    ∃ members, f d.toJson = .object members ∧
      members.lookup "type" = some (.string d.kind.name) := by
  have hobject : ∃ members, d.toJson = .object members ∧ (members.map (·.1)).Nodup ∧
      ("type", .string d.kind.name) ∈ members := by
    cases d with
    | bare container => cases container <;> exact ⟨_, rfl, by simp, List.mem_cons_self⟩
    | _ => exact ⟨_, rfl, by simp, List.mem_cons_self⟩
  obtain ⟨members, htoJson, hnodup, hmem⟩ := hobject
  obtain ⟨members', hmembers', hlookup⟩ := hf.exists_lookup hnodup
  exact ⟨members', htoJson ▸ hmembers', (hlookup hmem).trans (by rw [hf.string])⟩

mutual

/-- Decoding undoes encoding, in whatever order the members stand. -/
theorem ofJson_toJson {f : Json → Json} (hf : Arranges f) (d : Descriptor) (nested : Bool) :
    ofJson nested (f d.toJson) = .ok d := by
  cases d with
  | ref id =>
    refine orderFree.decode_arranged hf (by simp) ?_
    simp only [List.map_cons, List.map_nil, hf.string, hf.object_singleton]
    rfl
  | array element | map element =>
    have ih := ofJson_toJson hf element true
    refine orderFree.decode_arranged hf (by simp) ?_
    simp only [List.map_cons, List.map_nil, hf.string]
    rw [ofJson_pair (by decide) (usable_of_ofJson ih), ofFields,
      onlyField_pair (by decide) (nullable_ofJson ih)]
    rfl
  | union types =>
    have ih := ofJsonList_toJsonList hf types
    refine orderFree.decode_arranged hf (by simp) ?_
    simp only [List.map_cons, List.map_nil, hf.string, hf.array]
    rw [ofJson_pair (by decide) (usable_of_ofJsonList ih), ofFields,
      onlyField_pair (by decide) (nullable_ofJsonList ih)]
    rfl
  | bare container =>
    cases container <;>
    · refine orderFree.decode_arranged hf (by simp) ?_
      simp only [List.map_cons, List.map_nil, hf.string, hf.null]
      rfl
  | _ =>
    refine orderFree.decode_arranged hf (by simp) ?_
    simp only [List.map_cons, List.map_nil, hf.string]
    rfl

theorem ofJsonList_toJsonList {f : Json → Json} (hf : Arranges f) (ds : List Descriptor) :
    ofJsonList ((toJsonList ds).map f) = .ok ds := by
  cases ds with
  | nil => rfl
  | cons first rest =>
    rw [toJsonList, List.map_cons, ofJsonList, ofJson_toJson hf first,
      ofJsonList_toJsonList hf rest]
    rfl

end

end Descriptor

end ConstructSchema
