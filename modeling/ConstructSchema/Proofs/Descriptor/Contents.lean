import ConstructSchema.Proofs.Descriptor.Levels
import ConstructSchema.Proofs.Descriptor.Reordered

/-!
The contents of containers, in the values they are decoded from.

What an array, map or union holds stands in one place of its value: in the member `element` or
`types`, or in the position behind the kind. A container is decoded from that place alone
(`exists_contents`), so other contents there give the same container with other contents, and
without contents it is bare (`ofJson_of_emptied`). The other members have to be usable and are not
looked at any further.
-/

namespace ConstructSchema

/-- The member that gives the contents of a container. -/
def Container.field : Container → String
  | .array | .map => "element"
  | .union => "types"

theorem Container.field_ne_type (container : Container) : container.field ≠ "type" := by
  cases container <;> decide

namespace Json

/-- The value that gives the contents of a container: the member of the name, or what stands behind
the kind. -/
def contents? (name : String) : Json → Option Json
  | .object members => members.lookup name
  | .array [_, contents] => some contents
  | _ => none

/-- The value with its contents changed. -/
def modifyContents (name : String) (f : Json → Json) : Json → Json
  | .object members => .object (members.map fun m => if m.1 = name then (m.1, f m.2) else m)
  | .array [kind, contents] => .array [kind, f contents]
  | j => j

/-- The members called `name` are gone or there is one that holds null, and all others are as they
were. -/
structure Emptied (name : String) (members members' : List (String × Json)) : Prop where
  others : members'.filter (·.1 ≠ name) = members.filter (·.1 ≠ name)
  contents : members'.filter (·.1 = name) = [] ∨ members'.filter (·.1 = name) = [(name, .null)]

/-! ## Values that can be used -/

mutual

/-- What can be used can be passed over. -/
theorem skippable_of_usable {j : Json} (h : j.usable = true) : j.skippable = true := by
  cases j with
  | array items => exact skippableItems_of_usableItems h
  | object members => exact skippableMembers_of_usableMembers h
  | inert value | misnamed value | broken => cases h
  | _ => rfl

theorem skippableItems_of_usableItems {items : List Json} (h : usableItems items = true) :
    skippableItems items = true := by
  cases items with
  | nil => rfl
  | cons item rest =>
    rw [usableItems, Bool.and_eq_true] at h
    rw [skippableItems, skippable_of_usable h.1, skippableItems_of_usableItems h.2]
    rfl

theorem skippableMembers_of_usableMembers {members : List (String × Json)}
    (h : usableMembers members = true) : skippableMembers members = true := by
  cases members with
  | nil => rfl
  | cons m rest =>
    rw [usableMembers, Bool.and_eq_true] at h
    rw [skippableMembers, skippable_of_usable h.1, skippableMembers_of_usableMembers h.2]
    rfl

end

theorem skippableMember_of_usable {j : Json} (h : j.usable = true) : skippableMember j = true := by
  cases j with
  | misnamed value => cases h
  | _ => exact skippable_of_usable h

theorem listOf_eq_ok_iff {α : Type} {decode : Json → Except Fault α} {j : Json} {as : List α} :
    listOf decode j = .ok as ↔ ∃ items, j = .array items ∧ items.mapM decode = .ok as := by
  cases j <;> simp [listOf]

/-! ## The members of a name -/

/-- What is found under a name is the first of the members called so. -/
theorem lookup_eq_head_filter (name : String) (members : List (String × Json)) :
    members.lookup name = (members.filter (·.1 = name)).head?.map (·.2) := by
  induction members with
  | nil => rfl
  | cons m rest ih =>
    obtain ⟨k, value⟩ := m
    rw [lookup_cons_eq_ite]
    by_cases hk : name = k
    · simp [hk]
    · rw [if_neg hk, ih, List.filter_cons_of_neg (by simpa using Ne.symm hk)]

/-- Changing the members of a name leaves the others as they are. -/
theorem filter_ne_map (name : String) (f : Json → Json) (members : List (String × Json)) :
    (members.map fun m => if m.1 = name then (m.1, f m.2) else m).filter (·.1 ≠ name) =
      members.filter (·.1 ≠ name) := by
  induction members with
  | nil => rfl
  | cons m rest ih =>
    by_cases hm : m.1 = name <;> simpa [hm] using ih

theorem filter_eq_map (name : String) (f : Json → Json) (members : List (String × Json)) :
    (members.map fun m => if m.1 = name then (m.1, f m.2) else m).filter (·.1 = name) =
      (members.filter (·.1 = name)).map fun m => (m.1, f m.2) := by
  induction members with
  | nil => rfl
  | cons m rest ih =>
    by_cases hm : m.1 = name <;> simpa [hm] using ih

/-- A check of the only field of a record looks at the members of its name, if all others can be
passed over: there must be none, or one without a fault. -/
theorem checkFields_only_eq_ok_iff {members : List (String × Json)} {name : String}
    {fault : Option Fault} (hskip : ∀ m ∈ members, skippableMember m.2 = true) :
    checkFields (.named members) [(name, fault)] = .ok () ↔
      (members.filter (·.1 = name) = [] ∨ fault = none) ∧
        (members.filter (·.1 = name)).length ≤ 1 := by
  have hpasses : (∀ m ∈ members, Record.Passes skippableMember [(name, fault)] [] m) ↔
      members.filter (·.1 = name) = [] ∨ fault = none := by
    have hone : ∀ m ∈ members, Record.Passes skippableMember [(name, fault)] [] m ↔
        (m.1 = name → fault = none) := by
      intro m hm
      rw [Record.Passes, lookup_cons_eq_ite]
      by_cases hname : m.1 = name <;> simp [hname, hskip m hm]
    rw [forall₂_congr hone]
    cases fault <;> simp [List.filter_eq_nil_iff]
  have hnames : Record.fieldNames [(name, fault)] members =
      List.replicate (members.filter (·.1 = name)).length name := by
    have hknown : ∀ m : String × Json,
        (([(name, fault)].lookup m.1).isSome : Bool) = decide (m.1 = name) := by
      intro m
      rw [lookup_cons_eq_ite]
      by_cases hname : m.1 = name <;> simp [hname]
    rw [Record.fieldNames, List.filter_map, List.eq_replicate_iff]
    simp only [Function.comp_def, hknown, List.length_map, true_and, List.forall_mem_map]
    intro m hm
    simpa using List.of_mem_filter hm
  rw [checkFields, Record.check_eq_ok_iff, Record.named, Record.checkMembers_eq_ok_iff, hpasses,
    hnames, List.nodup_replicate]
  simp

end Json

namespace Descriptor

open Json (Emptied nullable listOf)

variable {nested : Bool} {j : Json} {d : Descriptor} {container : Container}

/-! ## What a container holds -/

/-- The descriptor of a container whose contents are given by a value. -/
def ofContents : Container → Json → Except Fault Descriptor
  | .array, j => (nullable (ofJson true) j).map (ofElement .array .array)
  | .map, j => (nullable (ofJson true) j).map (ofElement .map .map)
  | .union, j => (nullable (listOf (ofJson true)) j).map ofTypes

theorem ofContents_null (container : Container) :
    ofContents container .null = .ok (.bare container) := by
  cases container <;> rfl

theorem usable_of_nullable {α : Type} {decode : Json → Except Fault α} {a : Option α}
    (hdecode : ∀ {a}, decode j = .ok a → j.usable = true) (h : nullable decode j = .ok a) :
    j.usable = true := by
  cases j with
  | null => rfl
  | _ =>
    obtain ⟨_, ha, -⟩ := map_eq_ok_iff.1 h
    exact hdecode ha

theorem usable_of_listOf {ds : List Descriptor} (h : listOf (ofJson true) j = .ok ds) :
    j.usable = true := by
  obtain ⟨items, rfl, hitems⟩ := Json.listOf_eq_ok_iff.1 h
  exact usable_of_ofJsonList ((ofJsonList_eq_mapM items).trans hitems)

/-- Contents can be used in all their parts. -/
theorem usable_of_ofContents (h : ofContents container j = .ok d) : j.usable = true := by
  cases container with
  | array | map =>
    obtain ⟨element, helement, -⟩ := map_eq_ok_iff.1 h
    exact usable_of_nullable usable_of_ofJson helement
  | union =>
    obtain ⟨types, htypes, -⟩ := map_eq_ok_iff.1 h
    exact usable_of_nullable usable_of_listOf htypes

/-- The value of the only field of a record is that of the one member of its name, if there is
one. -/
theorem onlyField_eq_ok_iff {α : Type} {members : List (String × Json)} {name : String}
    {decode : Json → Except Fault (Option α)} {a : Option α}
    (hskip : ∀ m ∈ members, Json.skippableMember m.2 = true) :
    onlyField members name ((Record.named members).field name decode) = .ok a ↔
      (members.filter (·.1 = name) = [] ∧ a = none) ∨
        ∃ value, members.filter (·.1 = name) = [(name, value)] ∧ decode value = .ok a := by
  have hnamed : ∀ m ∈ members.filter (·.1 = name), m.1 = name := by
    intro m hm
    simpa using List.of_mem_filter hm
  have hfield : (Record.named members).field name decode =
      ((members.filter (·.1 = name)).head?.map (·.2)).map decode := by
    rw [Record.field, Record.named, Json.lookup_eq_head_filter]
  have hunit (u : Unit) : u = () := rfl
  simp only [onlyField, bind_eq_ok_iff, hunit, Json.checkFields_only_eq_ok_iff hskip, hfield]
  cases hfilter : members.filter (·.1 = name) with
  | nil => simp [eq_comm]
  | cons m rest =>
    obtain ⟨k, value⟩ := m
    obtain rfl : k = name := hnamed (k, value) (by simp [hfilter])
    cases rest with
    | nil => cases hvalue : decode value <;> simp [hvalue, Record.faultOf]
    | cons m rest => simp

/-- The value of the only position behind a kind is that of the one item, if there is one. -/
theorem onlyPosition_eq_ok_iff {α : Type} {decode : Json → Except Fault (Option α)}
    {make : Option α → Descriptor} {items : List Json} :
    onlyPosition decode make items = .ok d ↔
      (items = [] ∧ d = make none) ∨
        ∃ value, items = [value] ∧ (decode value).map make = .ok d := by
  cases items with
  | nil => simp [onlyPosition, eq_comm]
  | cons value extra =>
    simp only [onlyPosition, bind_eq_ok_iff, closed_eq_ok_iff, map_eq_ok_iff, List.cons.injEq]
    constructor
    · rintro ⟨a, ha, rfl, rfl⟩
      exact .inr ⟨value, ⟨rfl, rfl⟩, a, ha, rfl⟩
    · rintro (⟨hnil, -⟩ | ⟨_, ⟨rfl, rfl⟩, a, ha, rfl⟩)
      · cases hnil
      · exact ⟨a, ha, rfl, rfl⟩

/-! ## Containers in values -/

theorem kind_of_ofFields {members : List (String × Json)} {kind : Kind}
    (h : ofFields members kind = .ok d) : d.kind = kind := by
  cases kind with
  | ref =>
    simp only [ofFields, bind_eq_ok_iff, pure_eq_ok_iff] at h
    obtain ⟨_, _, id, _, rfl⟩ := h
    rfl
  | array | map | union =>
    obtain ⟨contents, _, rfl⟩ := map_eq_ok_iff.1 h
    cases contents <;> rfl
  | _ =>
    cases h
    rfl

theorem kind_of_ofPositions {items : List Json} {kind : Kind}
    (h : ofPositions items kind = .ok d) : d.kind = kind := by
  cases kind with
  | ref =>
    cases items with
    | nil => cases h
    | cons first extra =>
      obtain ⟨id, _, hclosed⟩ := bind_eq_ok_iff.1 h
      rw [← (closed_eq_ok_iff.1 hclosed).2]
      rfl
  | array | map | union =>
    obtain ⟨-, rfl⟩ | ⟨value, -, hvalue⟩ := onlyPosition_eq_ok_iff.1 h
    · rfl
    · obtain ⟨contents, -, rfl⟩ := map_eq_ok_iff.1 hvalue
      cases contents <;> rfl
  | _ =>
    rw [← (closed_eq_ok_iff.1 h).2]
    rfl

/-- The members of a decoded descriptor select its kind. -/
theorem ofMembers_of_ofJson {members : List (String × Json)}
    (h : ofJson nested (.object members) = .ok d) :
    Kind.ofMembers nested none members = .ok d.kind := by
  rw [ofJson_object, bind_eq_ok_iff] at h
  obtain ⟨kind, hkind, hd⟩ := h
  rw [hkind, kind_of_ofFields hd]

/-- Members that differ in those of one name select the same kind, unless that name is `type`. -/
theorem ofMembers_of_filter_eq {members members' : List (String × Json)} {name : String}
    {kind : Kind} (h : Kind.ofMembers nested none members = .ok kind) (hname : name ≠ "type")
    (hothers : members'.filter (·.1 ≠ name) = members.filter (·.1 ≠ name))
    (husable : ∀ m ∈ members'.filter (·.1 = name), m.2.usable = true) :
    Kind.ofMembers nested none members' = .ok kind := by
  have htypes : ∀ members : List (String × Json), members.filter (·.1 = "type") =
      (members.filter (·.1 ≠ name)).filter (·.1 = "type") := by
    intro members
    rw [List.filter_filter]
    refine List.filter_congr fun m _ => ?_
    by_cases hm : m.1 = "type" <;> simp [hm, hname.symm]
  rw [Kind.ofMembers_none_eq_ok_iff] at h ⊢
  rw [htypes members', hothers, ← htypes members]
  refine ⟨fun m hm htype => ?_, h.2⟩
  by_cases hmname : m.1 = name
  · exact husable m (List.mem_filter.2 ⟨hm, by simpa using hmname⟩)
  · have hmem : m ∈ members'.filter (·.1 ≠ name) := List.mem_filter.2 ⟨hm, by simpa using hmname⟩
    rw [hothers] at hmem
    exact h.1 m (List.mem_of_mem_filter hmem) htype

/-- A container with named members is that of the one member that gives its contents, if there is
one. -/
theorem ofJson_container_eq_ok_iff {members : List (String × Json)}
    (h : Kind.ofMembers nested none members = .ok (.ofContainer container)) :
    ofJson nested (.object members) = .ok d ↔
      (members.filter (·.1 = container.field) = [] ∧ d = .bare container) ∨
        ∃ value, members.filter (·.1 = container.field) = [(container.field, value)] ∧
          ofContents container value = .ok d := by
  have hskip : ∀ m ∈ members, Json.skippableMember m.2 = true := fun m hm =>
    Json.skippableMember_of_usable (usable_of_ofMembers h m hm)
  rw [ofJson_object, h, ok_bind]
  cases container <;>
  · simp only [Kind.ofContainer, ofFields, map_eq_ok_iff, onlyField_eq_ok_iff hskip, ofContents]
    constructor
    · rintro ⟨contents, ⟨hnil, rfl⟩ | ⟨value, hfilter, hvalue⟩, rfl⟩
      · exact .inl ⟨hnil, rfl⟩
      · exact .inr ⟨value, hfilter, contents, hvalue, rfl⟩
    · rintro (⟨hnil, rfl⟩ | ⟨value, hfilter, contents, hvalue, rfl⟩)
      · exact ⟨none, .inl ⟨hnil, rfl⟩, rfl⟩
      · exact ⟨contents, .inr ⟨value, hfilter, hvalue⟩, rfl⟩

theorem ofPositions_container_eq_ok_iff {items : List Json} :
    ofPositions items (.ofContainer container) = .ok d ↔
      (items = [] ∧ d = .bare container) ∨
        ∃ value, items = [value] ∧ ofContents container value = .ok d := by
  cases container <;> exact onlyPosition_eq_ok_iff

/-- Where a container that is not bare was decoded from, its contents stand in one place, and with
other contents there it is decoded from these. -/
theorem exists_contents (container : Container) (h : ofJson nested j = .ok d)
    (hkind : d.kind = .ofContainer container) (hbare : d ≠ .bare container) :
    ∃ value, j.contents? container.field = some value ∧ ofContents container value = .ok d ∧
      ∀ (f : Json → Json) (d' : Descriptor), ofContents container (f value) = .ok d' →
        ofJson nested (j.modifyContents container.field f) = .ok d' := by
  cases j with
  | object members =>
    have hmembers := ofMembers_of_ofJson h
    rw [hkind] at hmembers
    obtain ⟨-, rfl⟩ | ⟨value, hfilter, hvalue⟩ := (ofJson_container_eq_ok_iff hmembers).1 h
    · exact absurd rfl hbare
    refine ⟨value, by simp [Json.contents?, Json.lookup_eq_head_filter, hfilter], hvalue,
      fun f d' hd' => ?_⟩
    -- The change is seen in the member of the contents only, so the kind is selected as before.
    have hchanged := Json.filter_eq_map container.field f members
    rw [hfilter, List.map_singleton] at hchanged
    have hmembers' := ofMembers_of_filter_eq hmembers container.field_ne_type
      (Json.filter_ne_map container.field f members) (by
        rw [hchanged]
        simpa using usable_of_ofContents hd')
    exact (ofJson_container_eq_ok_iff hmembers').2 (.inr ⟨f value, hchanged, hd'⟩)
  | array items =>
    cases items with
    | nil => cases h
    | cons first items =>
      rw [ofJson_array, bind_eq_ok_iff] at h
      obtain ⟨kind, hfirst, hpositions⟩ := h
      split at hpositions
      · obtain rfl := (kind_of_ofPositions hpositions).symm.trans hkind
        obtain ⟨-, rfl⟩ | ⟨value, rfl, hvalue⟩ := ofPositions_container_eq_ok_iff.1 hpositions
        · exact absurd rfl hbare
        refine ⟨value, rfl, hvalue, fun f d' hd' => ?_⟩
        rw [Json.modifyContents, ofJson_array, hfirst, ok_bind, if_pos (by
          simp [Json.usableItems, usable_of_ofContents hd'])]
        exact ofPositions_container_eq_ok_iff.2 (.inr ⟨f value, rfl, hd'⟩)
      · cases hpositions
  | _ => cases h

/-- A container whose contents are taken away, or are null, is bare. -/
theorem ofJson_of_emptied {members members' : List (String × Json)}
    (h : ofJson nested (.object members) = .ok d) (hkind : d.kind = .ofContainer container)
    (hemptied : Emptied container.field members members') :
    ofJson nested (.object members') = .ok (.bare container) := by
  have hmembers := ofMembers_of_ofJson h
  rw [hkind] at hmembers
  have hmembers' := ofMembers_of_filter_eq hmembers container.field_ne_type hemptied.others (by
    obtain hnone | hnull := hemptied.contents
    · simp [hnone]
    · simp [hnull, Json.usable])
  rw [ofJson_container_eq_ok_iff hmembers']
  obtain hnone | hnull := hemptied.contents
  · exact .inl ⟨hnone, rfl⟩
  · exact .inr ⟨.null, hnull, ofContents_null container⟩

/-! ## Parts of contents -/

/-- What makes a container of an element holds the element that the contents decode to. -/
theorem map_ofElement_eq_ok_iff {make : Descriptor → Descriptor} {element : Descriptor}
    (hmake : Function.Injective make) (hbare : make element ≠ .bare container) :
    (nullable (ofJson true) j).map (ofElement container make) = .ok (make element) ↔
      ofJson true j = .ok element := by
  constructor
  · intro h
    obtain ⟨contents, hcontents, hd⟩ := map_eq_ok_iff.1 h
    cases contents with
    | none => exact absurd hd.symm hbare
    | some e =>
      rw [← hmake hd]
      exact Json.decode_of_nullable hcontents
  · intro h
    rw [nullable_ofJson h]
    rfl

theorem ofContents_array_eq_ok_iff {element : Descriptor} :
    ofContents .array j = .ok (.array element) ↔ ofJson true j = .ok element :=
  map_ofElement_eq_ok_iff (fun _ _ => array.inj) nofun

theorem ofContents_map_eq_ok_iff {element : Descriptor} :
    ofContents .map j = .ok (.map element) ↔ ofJson true j = .ok element :=
  map_ofElement_eq_ok_iff (fun _ _ => map.inj) nofun

theorem ofContents_union_eq_ok_iff {types : List Descriptor} :
    ofContents .union j = .ok (.union types) ↔
      ∃ items, j = .array items ∧ items.mapM (ofJson true) = .ok types := by
  constructor
  · intro h
    obtain ⟨contents, hcontents, hd⟩ := map_eq_ok_iff.1 h
    cases contents with
    | none => cases hd
    | some ds =>
      obtain rfl := union.inj hd
      exact Json.listOf_eq_ok_iff.1 (Json.decode_of_nullable hcontents)
  · rintro ⟨items, rfl, htypes⟩
    rw [ofContents, nullable_ofJsonList ((ofJsonList_eq_mapM items).trans htypes)]
    rfl

end Descriptor

end ConstructSchema
