import ConstructSchema.Json.Text
import ConstructSchema.Proofs.Table

/-!
How deeply a value is nested.

`Json.levels` counts the arrays and objects within each other, as far as a value can be used. What
is read from a text never has more levels than the reader had room for (`levels_read_le`): an array
or object beyond that is inert. What a decoder takes out of a value, be it a field of a record, an
item of a list or a value of a table, has a level less than the value.
-/

namespace ConstructSchema.Json

mutual

/-- The greatest number of arrays and objects within each other in the part of a value that can be
used. -/
def levels : Json → Nat
  | .array items => levelsOfItems items + 1
  | .object members => levelsOfMembers members + 1
  | _ => 0

/-- The greatest number of levels among items. -/
def levelsOfItems : List Json → Nat
  | [] => 0
  | item :: rest => max item.levels (levelsOfItems rest)

/-- The greatest number of levels among the values of members. -/
def levelsOfMembers : List (String × Json) → Nat
  | [] => 0
  | (_, value) :: rest => max value.levels (levelsOfMembers rest)

end

/-! ## Arrays and objects -/

theorem levelsOfItems_le_iff {items : List Json} {n : Nat} :
    levelsOfItems items ≤ n ↔ ∀ item ∈ items, item.levels ≤ n := by
  induction items with
  | nil => simp [levelsOfItems]
  | cons item rest ih => rw [levelsOfItems, Nat.max_le, ih, List.forall_mem_cons]

theorem levelsOfMembers_le_iff {members : List (String × Json)} {n : Nat} :
    levelsOfMembers members ≤ n ↔ ∀ m ∈ members, m.2.levels ≤ n := by
  induction members with
  | nil => simp [levelsOfMembers]
  | cons m rest ih => rw [levelsOfMembers, Nat.max_le, ih, List.forall_mem_cons]

theorem levels_array_le_iff {items : List Json} {n : Nat} :
    (Json.array items).levels ≤ n ↔ 0 < n ∧ ∀ item ∈ items, item.levels + 1 ≤ n := by
  rw [levels]
  cases n with
  | zero => simp
  | succ n => simp [levelsOfItems_le_iff]

theorem levels_object_le_iff {members : List (String × Json)} {n : Nat} :
    (Json.object members).levels ≤ n ↔ 0 < n ∧ ∀ m ∈ members, m.2.levels + 1 ≤ n := by
  rw [levels]
  cases n with
  | zero => simp
  | succ n => simp [levelsOfMembers_le_iff]

/-- What stands in an array has a level less. -/
theorem levels_lt_of_mem_items {items : List Json} {item : Json} (h : item ∈ items) :
    item.levels < (Json.array items).levels :=
  (levels_array_le_iff.1 (Nat.le_refl _)).2 item h

/-- What stands in an object has a level less. -/
theorem levels_lt_of_mem_members {members : List (String × Json)} {m : String × Json}
    (h : m ∈ members) : m.2.levels < (Json.object members).levels :=
  (levels_object_le_iff.1 (Nat.le_refl _)).2 m h

theorem levels_ofTable_le_iff {α : Type} {encode : α → Json} {t : Table α} {n : Nat} :
    (ofTable encode t).levels ≤ n ↔ 0 < n ∧ ∀ a ∈ t.values, (encode a).levels + 1 ≤ n := by
  rw [ofTable, levels_object_le_iff, List.forall_mem_map, Table.values, List.forall_mem_map]

/-! ## The reader -/

/-- A value that does not fit has no levels. -/
theorem levels_inertUnless_le {fit : Bool} {value : Json} {n : Nat}
    (h : fit = true → value.levels ≤ n) : (inertUnless fit value).levels ≤ n := by
  unfold inertUnless
  split
  · exact h ‹_›
  · exact Nat.zero_le n

/-- The value of a member whose name cannot be used has no levels. -/
theorem levels_memberOf_le {name : Literal} {value : Json} {n : Nat} (h : value.levels ≤ n) :
    (memberOf name value).2.levels ≤ n := by
  unfold memberOf
  split
  · exact h
  · exact Nat.zero_le n

/-- What is read with some fuel has at most as many levels as there was room for. -/
structure KeepsRoom (fuel : Nat) : Prop where
  value : ∀ room cs, (readValue fuel room cs).1.levels ≤ room
  items : ∀ room cs, ∀ item ∈ (readItems fuel room cs).1, item.levels ≤ room
  members : ∀ room cs, ∀ m ∈ (readMembers fuel room cs).1, m.2.levels ≤ room

namespace KeepsRoom

variable {fuel : Nat} (h : KeepsRoom fuel)
include h

theorem value_succ (room : Nat) (cs : List Char) :
    (readValue (fuel + 1) room cs).1.levels ≤ room := by
  rw [readValue]
  split
  case h_4 =>
    split
    · exact Nat.zero_le room
    · exact levels_inertUnless_le fun _ => Nat.zero_le room
  case h_5 =>
    refine levels_inertUnless_le fun hroom => levels_array_le_iff.2 ?_
    have hroom : 0 < room := of_decide_eq_true hroom
    refine ⟨hroom, fun item hitem => ?_⟩
    split at hitem
    · cases hitem
    · have hle := h.items _ _ item hitem
      omega
  case h_6 =>
    refine levels_inertUnless_le fun hroom => levels_object_le_iff.2 ?_
    have hroom : 0 < room := of_decide_eq_true hroom
    refine ⟨hroom, fun m hm => ?_⟩
    split at hm
    · cases hm
    · have hle := h.members _ _ m hm
      omega
  case h_7 =>
    split
    · exact Nat.zero_le room
    · exact levels_inertUnless_le fun _ => Nat.zero_le room
  -- Null and the truth values.
  all_goals exact Nat.zero_le room

theorem items_succ (room : Nat) (cs : List Char) :
    ∀ item ∈ (readItems (fuel + 1) room cs).1, item.levels ≤ room := by
  have hfirst := h.value room cs
  rw [readItems]
  split
  next value heq => simpa [heq] using hfirst
  next value rest heq =>
    rw [heq] at hfirst
    split
    next rest _ => exact List.forall_mem_cons.2 ⟨hfirst, h.items room rest⟩
    · simpa using hfirst
    · simpa [levels] using hfirst

theorem members_succ (room : Nat) (cs : List Char) :
    ∀ m ∈ (readMembers (fuel + 1) room cs).1, m.2.levels ≤ room := by
  rw [readMembers]
  split
  · split
    · simp [levels]
    · split
      next rest _ =>
        have hfirst := h.value room rest
        split
        next value heq =>
          rw [heq] at hfirst
          simpa using levels_memberOf_le hfirst
        next value rest heq =>
          rw [heq] at hfirst
          split
          next rest _ =>
            exact List.forall_mem_cons.2 ⟨levels_memberOf_le hfirst, h.members room rest⟩
          · simpa using levels_memberOf_le hfirst
          · simpa [levels] using levels_memberOf_le hfirst
      · simpa using levels_memberOf_le (Nat.zero_le room)
  · simp [levels]

end KeepsRoom

theorem keepsRoom (fuel : Nat) : KeepsRoom fuel := by
  induction fuel with
  | zero => constructor <;> simp [readValue, readItems, readMembers, levels]
  | succ fuel ih => exact ⟨ih.value_succ, ih.items_succ, ih.members_succ⟩

/-- What is read from a text nests within the limit, as far as it can be used. -/
theorem levels_read_le (s : String) : (read s).1.levels ≤ nestingLimit := by
  have hread : (read s).1 = (readValue (2 * s.toList.length + 2) nestingLimit s.toList).1 := by
    rw [read, readChars]
    split <;> simp [*]
  rw [hread]
  exact (keepsRoom _).value _ _

/-! ## Decoders -/

section

variable {α : Type} {decode : Json → Except Fault α} {j : Json}

/-- A record is an array or an object. -/
theorem levels_pos_of_record {names : List String} {r : Record Json}
    (h : j.record names = .ok r) : 0 < j.levels := by
  cases j with
  | array items => exact Nat.succ_pos _
  | object members => exact Nat.succ_pos _
  | _ => cases h

theorem levels_lt_of_mem_record {names : List String} {r : Record Json}
    (h : j.record names = .ok r) {m : String × Json} (hm : m ∈ r.members) :
    m.2.levels < j.levels := by
  cases j with
  | array items =>
    cases h
    exact levels_lt_of_mem_items (List.of_mem_zip hm).2
  | object members =>
    cases h
    exact levels_lt_of_mem_members hm
  | _ => cases h

/-- A field is decoded from a value with a level less. -/
theorem exists_of_field {names : List String} {r : Record Json} (h : j.record names = .ok r)
    {name : String} {x : Except Fault α} (hx : r.field name decode = some x) :
    ∃ value, value.levels < j.levels ∧ decode value = x := by
  obtain ⟨value, hvalue, rfl⟩ := Option.map_eq_some_iff.1 hx
  exact ⟨value, levels_lt_of_mem_record h (mem_of_lookup_eq_some hvalue), rfl⟩

theorem exists_of_required {names : List String} {r : Record Json} (h : j.record names = .ok r)
    {name : String} {a : α} (ha : r.required name (r.field name decode) = .ok a) :
    ∃ value, value.levels < j.levels ∧ decode value = .ok a := by
  cases hx : r.field name decode with
  | none => simp [hx, Record.required] at ha
  | some x =>
    rw [hx] at ha
    obtain rfl : x = .ok a := ha
    exact exists_of_field h hx

theorem exists_of_optional {names : List String} {r : Record Json} (h : j.record names = .ok r)
    {name : String} {default a : α}
    (ha : Record.optional default (r.field name decode) = .ok a) :
    a = default ∨ ∃ value, value.levels < j.levels ∧ decode value = .ok a := by
  cases hx : r.field name decode with
  | none =>
    rw [hx] at ha
    exact Or.inl (Except.ok.inj ha).symm
  | some x =>
    rw [hx] at ha
    obtain rfl : x = .ok a := ha
    exact Or.inr (exists_of_field h hx)

/-- A value that is there was decoded. -/
theorem decode_of_nullable {a : α} (h : nullable decode j = .ok (some a)) : decode j = .ok a := by
  cases j with
  | null => cases h
  | _ =>
    rw [nullable, map_eq_ok_iff] at h
    · obtain ⟨a', ha', hsome⟩ := h
      rw [ha', Option.some.inj hsome]
    · simp

theorem exists_of_listOf {as : List α} (h : listOf decode j = .ok as) :
    ∀ a ∈ as, ∃ value, value.levels < j.levels ∧ decode value = .ok a := by
  cases j with
  | array items =>
    intro a ha
    obtain ⟨item, hitem, hdecode⟩ := (mem_iff_of_mapM h).1 ha
    exact ⟨item, levels_lt_of_mem_items hitem, hdecode⟩
  | _ => cases h

theorem exists_of_tableOf {t : Table α} (h : tableOf decode j = .ok t) :
    ∀ a ∈ t.values, ∃ value, value.levels < j.levels ∧ decode value = .ok a := by
  cases j with
  | object members =>
    intro a ha
    obtain ⟨pairs, hpairs, rfl⟩ := map_eq_ok_iff.1 h
    obtain ⟨k, hk⟩ := Table.mem_of_mem_values_ofList ha
    obtain ⟨m, hm, hdecode⟩ := (mem_iff_of_mapM hpairs).1 hk
    exact ⟨m.2, levels_lt_of_mem_members hm, (Table.map_mk_eq_ok_iff.1 hdecode).2⟩
  | _ => cases h

end

end ConstructSchema.Json
