import ConstructSchema.Proofs.Descriptor.Nodes
import ConstructSchema.Proofs.Descriptor.RoundTrip
import ConstructSchema.Proofs.Json.Levels
import ConstructSchema.ValueType.Json

/-!
How deeply descriptors and value types are nested.

The encoding of a descriptor has no more levels than what it was decoded from
(`levels_toJson_of_ofJson`), and the encoding of a resolved type has no more levels than that of
the descriptor (`levels_toJson_of_resolve`): a list or a map stands for one level on each side, a
union for two.
-/

namespace ConstructSchema

open Json (levels levelsOfItems levelsOfMembers)

/-! ## Value types -/

namespace ValueType

@[simp] theorem levels_toJson_primitive (kind : Primitive) :
    (primitive kind).toJson.levels = 1 := by
  simp [toJson, Primitive.toJson, levels, levelsOfMembers]

@[simp] theorem levels_toJson_named (name : String) : (named name).toJson.levels = 1 := by
  simp [toJson, levels, levelsOfMembers]

@[simp] theorem levels_toJson_listOf (element : ValueType) :
    (listOf element).toJson.levels = element.toJson.levels + 1 := by
  simp [toJson, levels, levelsOfMembers]

@[simp] theorem levels_toJson_mapOf (element : ValueType) :
    (mapOf element).toJson.levels = element.toJson.levels + 1 := by
  simp [toJson, levels, levelsOfMembers]

@[simp] theorem levels_toJson_unionOf (members : List ValueType) :
    (unionOf members).toJson.levels = levelsOfItems (toJsonList members) + 2 := by
  simp [toJson, levels, levelsOfMembers]

end ValueType

/-! ## Descriptors -/

namespace Descriptor

@[simp] theorem levels_toJson_ref (id : String) : (ref id).toJson.levels = 2 := by
  simp [toJson, levels, levelsOfMembers]

@[simp] theorem levels_toJson_array (element : Descriptor) :
    (array element).toJson.levels = element.toJson.levels + 1 := by
  simp [toJson, levels, levelsOfMembers]

@[simp] theorem levels_toJson_map (element : Descriptor) :
    (map element).toJson.levels = element.toJson.levels + 1 := by
  simp [toJson, levels, levelsOfMembers]

@[simp] theorem levels_toJson_union (types : List Descriptor) :
    (union types).toJson.levels = levelsOfItems (toJsonList types) + 2 := by
  simp [toJson, levels, levelsOfMembers]

@[simp] theorem levels_toJson_bare (container : Container) :
    (bare container).toJson.levels = 1 := by
  cases container <;> simp [toJson, levels, levelsOfMembers]

theorem levels_toJson_pos (d : Descriptor) : 0 < d.toJson.levels := by
  obtain ⟨members, hmembers, _⟩ := lookup_type_toJson Json.arranges_id d
  rw [show d.toJson = .object members from hmembers, levels]
  exact Nat.succ_pos _

/-! ### Resolving -/

section

variable {nameOf : String → Option String} {resourceType : String}

mutual

/-- A resolved type nests no deeper than its descriptor. -/
theorem levels_toJson_of_resolve {d : Descriptor} {v : ValueType}
    (h : d.resolve nameOf resourceType = .ok v) : v.toJson.levels ≤ d.toJson.levels := by
  cases d with
  | ref id =>
    cases hid : nameOf id with
    | none => simp [resolve, hid] at h
    | some name =>
      obtain rfl : .named (resourceType ++ "." ++ name) = v := by simpa [resolve, hid] using h
      simp
  | array element | map element =>
    obtain ⟨e, helement, rfl⟩ := map_eq_ok_iff.1 h
    simpa using levels_toJson_of_resolve helement
  | union types =>
    cases types with
    | nil => cases h
    | cons first rest =>
      obtain ⟨members, hmembers, rfl⟩ := map_eq_ok_iff.1 h
      simpa using levelsOfItems_of_resolveAll hmembers
  | bare container => cases h
  | _ =>
    cases h
    simpa using Nat.succ_le_of_lt (levels_toJson_pos _)

theorem levelsOfItems_of_resolveAll {ds : List Descriptor} {vs : List ValueType}
    (h : resolveAll nameOf resourceType ds = .ok vs) :
    levelsOfItems (ValueType.toJsonList vs) ≤ levelsOfItems (toJsonList ds) := by
  cases ds with
  | nil =>
    cases h
    exact Nat.le_refl _
  | cons first rest =>
    obtain ⟨member, members, hmember, hmembers, rfl⟩ :=
      (resolveAll_cons_eq_ok_iff nameOf resourceType).1 h
    rw [ValueType.toJsonList, toJsonList, levelsOfItems, levelsOfItems]
    have hfirst := levels_toJson_of_resolve hmember
    have hrest := levelsOfItems_of_resolveAll hmembers
    omega

end

end

/-! ### Decoding -/

/-- How a descriptor was decoded from a value: what it holds was decoded from parts of the value,
which have a level less. -/
inductive DecodedFrom (j : Json) : Descriptor → Prop
  | plain {d : Descriptor} (hd : d.toJson.levels = 1) : DecodedFrom j d
  | ref (id : String) {value : Json} (hvalue : value.levels < j.levels)
    (hpos : 0 < value.levels) : DecodedFrom j (.ref id)
  | array {element : Descriptor} {value : Json} (hvalue : value.levels < j.levels)
    (helement : ofJson true value = .ok element) : DecodedFrom j (.array element)
  | map {element : Descriptor} {value : Json} (hvalue : value.levels < j.levels)
    (helement : ofJson true value = .ok element) : DecodedFrom j (.map element)
  | union {types : List Descriptor} {items : List Json}
    (hitems : (Json.array items).levels < j.levels) (htypes : ofJsonList items = .ok types) :
    DecodedFrom j (.union types)

@[simp] theorem levels_toJson_ofPlainKind (kind : Kind) : (ofPlainKind kind).toJson.levels = 1 := by
  cases kind <;> rfl

theorem levels_pos_of_referenceOfJson {j : Json} {id : String} (h : referenceOfJson j = .ok id) :
    0 < j.levels := by
  rw [referenceOfJson, bind_eq_ok_iff] at h
  obtain ⟨r, hr, _⟩ := h
  exact Json.levels_pos_of_record hr

theorem closed_eq_ok_iff {α : Type} {extra : List Json} {value a : α} :
    closed extra value = .ok a ↔ extra = [] ∧ value = a := by
  cases extra <;> simp [closed]

theorem decodedFrom_of_ofFields {members : List (String × Json)} {kind : Kind} {d : Descriptor}
    (h : ofFields members kind = .ok d) : DecodedFrom (.object members) d := by
  have hrecord : (Json.object members).record [] = .ok (.named members) := rfl
  cases kind with
  | ref =>
    simp only [ofFields, bind_eq_ok_iff, pure_eq_ok_iff] at h
    obtain ⟨_, _, id, hid, rfl⟩ := h
    obtain ⟨value, hvalue, hreference⟩ := Json.exists_of_required hrecord hid
    exact .ref id hvalue (levels_pos_of_referenceOfJson hreference)
  | array | map =>
    simp only [ofFields, map_eq_ok_iff, onlyField, bind_eq_ok_iff] at h
    obtain ⟨element, ⟨_, _, helement⟩, rfl⟩ := h
    cases element with
    | none => exact .plain (levels_toJson_bare _)
    | some element =>
      obtain habsent | ⟨value, hvalue, hnullable⟩ := Json.exists_of_optional hrecord helement
      · cases habsent
      · first
          | exact .array hvalue (Json.decode_of_nullable hnullable)
          | exact .map hvalue (Json.decode_of_nullable hnullable)
  | union =>
    simp only [ofFields, map_eq_ok_iff, onlyField, bind_eq_ok_iff] at h
    obtain ⟨types, ⟨_, _, htypes⟩, rfl⟩ := h
    cases types with
    | none => exact .plain (levels_toJson_bare _)
    | some types =>
      obtain habsent | ⟨value, hvalue, hnullable⟩ := Json.exists_of_optional hrecord htypes
      · cases habsent
      · have hlist := Json.decode_of_nullable hnullable
        cases value with
        | array items => exact .union hvalue ((ofJsonList_eq_mapM items).trans hlist)
        | _ => cases hlist
  | _ =>
    cases h
    exact .plain rfl

/-- What stands behind the kind holds what the kind does: the case split is that of the decoder. -/
theorem decodedFrom_of_array {first : Json} {items : List Json} {nested : Bool} {d : Descriptor}
    (h : ofJson nested (.array (first :: items)) = .ok d) :
    DecodedFrom (.array (first :: items)) d := by
  rw [ofJson] at h
  split at h
  · cases h
  split at h
  · have hlt {item : Json} (hitem : item ∈ items) :=
      Json.levels_lt_of_mem_items (List.mem_cons_of_mem first hitem)
    split at h
    case h_1 | h_12 => cases h
    case h_2 =>
      split at h
      · cases h
      next id hid =>
        obtain ⟨_, rfl⟩ := closed_eq_ok_iff.1 h
        exact .ref id (hlt List.mem_cons_self) (levels_pos_of_referenceOfJson hid)
    case h_3 | h_6 | h_9 =>
      cases h
      exact .plain (levels_toJson_bare _)
    case h_4 | h_7 | h_10 =>
      obtain ⟨_, rfl⟩ := closed_eq_ok_iff.1 h
      exact .plain (levels_toJson_bare _)
    case h_5 =>
      split at h
      · cases h
      next element helement =>
        obtain ⟨_, rfl⟩ := closed_eq_ok_iff.1 h
        exact .array (hlt List.mem_cons_self) helement
    case h_8 =>
      split at h
      · cases h
      next element helement =>
        obtain ⟨_, rfl⟩ := closed_eq_ok_iff.1 h
        exact .map (hlt List.mem_cons_self) helement
    case h_11 =>
      split at h
      · cases h
      next types htypes =>
        obtain ⟨_, rfl⟩ := closed_eq_ok_iff.1 h
        exact .union (hlt List.mem_cons_self) htypes
    case h_13 =>
      obtain ⟨_, rfl⟩ := closed_eq_ok_iff.1 h
      exact .plain (levels_toJson_ofPlainKind _)
  · cases h

theorem decodedFrom {j : Json} {nested : Bool} {d : Descriptor} (h : ofJson nested j = .ok d) :
    DecodedFrom j d := by
  cases j with
  | object members =>
    rw [ofJson_object, bind_eq_ok_iff] at h
    obtain ⟨kind, _, hd⟩ := h
    exact decodedFrom_of_ofFields hd
  | array items =>
    cases items with
    | nil => cases h
    | cons first items => exact decodedFrom_of_array h
  | _ => cases h

theorem levels_pos_of_ofJson {j : Json} {nested : Bool} {d : Descriptor}
    (h : ofJson nested j = .ok d) : 0 < j.levels := by
  cases j with
  | object members => exact Nat.succ_pos _
  | array items => exact Nat.succ_pos _
  | _ => cases h

/-- A descriptor nests no deeper than the value it was decoded from. -/
theorem levels_toJson_of_ofJson {j : Json} {nested : Bool} {d : Descriptor}
    (h : ofJson nested j = .ok d) : d.toJson.levels ≤ j.levels := by
  -- The parts of the value have a level less, so the induction is on the levels.
  induction hn : j.levels using Nat.strongRecOn generalizing j nested d with
  | _ n ih =>
    subst hn
    cases decodedFrom h with
    | plain hd =>
      rw [hd]
      exact levels_pos_of_ofJson h
    | ref id hvalue hpos =>
      rw [levels_toJson_ref]
      omega
    | array hvalue helement =>
      have hle := ih _ hvalue helement rfl
      rw [levels_toJson_array]
      omega
    | map hvalue helement =>
      have hle := ih _ hvalue helement rfl
      rw [levels_toJson_map]
      omega
    | @union types items hitems htypes =>
      rw [ofJsonList_eq_mapM] at htypes
      have hall : levelsOfItems (toJsonList types) ≤ levelsOfItems items := by
        rw [Json.levelsOfItems_le_iff, toJsonList_eq_map, List.forall_mem_map]
        intro d hd
        obtain ⟨item, hitem, hdecode⟩ := (mem_iff_of_mapM htypes).1 hd
        have hlt := Json.levels_lt_of_mem_items hitem
        have hle := ih _ (Nat.lt_trans hlt hitems) hdecode rfl
        rw [Json.levels] at hlt
        omega
      rw [Json.levels] at hitems
      rw [levels_toJson_union]
      omega

end Descriptor

end ConstructSchema
