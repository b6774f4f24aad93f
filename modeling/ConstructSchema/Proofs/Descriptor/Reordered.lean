import ConstructSchema.Proofs.Descriptor.RoundTrip
import ConstructSchema.Proofs.Json.Reordered

/-!
Descriptors of values whose members stand in another order.

A descriptor is decoded from an object by the kind and the fields of the kind (`ofFields`), and from
an array by the kind and the positions behind it (`ofPositions`). What it holds is decoded from
parts of the value, so `stable` is an induction on how the value was reordered.
-/

namespace ConstructSchema.Descriptor

open Json (Keeps Stable OrderFree Reordered ReadsRecord NamesApart nullable listOf)

variable {nested : Bool} {v w : Json}

/-! ## References -/

theorem referenceOfJson_orderFree : OrderFree referenceOfJson := by
  intro members members' h hnodup a ha
  simp only [referenceOfJson, Json.record_object, ok_bind, Record.required_named,
    Record.field_named_perm h hnodup] at ha ⊢
  exact Json.checkFields_bind_perm h ha

theorem referenceOfJson_stable : Stable referenceOfJson := by
  refine ReadsRecord.stable ⟨fun j => rfl, fun r => rfl, fun r r' halike hcheck => ?_⟩
    referenceOfJson_orderFree
  have hid := halike.field_eq "$ref" hcheck rfl Json.text_stable
  simp only [hid, halike.required_eq, and_self]

/-! ## The kind -/

/-- Only texts and numbers select a kind. -/
theorem Kind.ofTag_reordered (h : v.Reordered w) : Kind.ofTag nested v = Kind.ofTag nested w := by
  cases h <;> rfl

theorem usable_iff_of_reordered (h : v.Reordered w) : v.usable = true ↔ w.usable = true :=
  h.iff_of_forall (P := fun v => v.usable = true)
    (fun _ => by rw [Json.usable, Json.usableItems_iff])
    (fun _ => by rw [Json.usable, Json.usableMembers_iff])
    (fun _ => by simp [Json.usable]) (fun _ => by simp [Json.usable])

/-- All members of an object with a kind stand under names: the others could not be used. -/
theorem named_of_ofMembers {members : List (String × Json)} {kind : Kind}
    (h : Kind.ofMembers nested none members = .ok kind) :
    ∀ m ∈ members, Json.nameless m = false := by
  intro m hm
  obtain ⟨husable, -⟩ := Kind.ofMembers_none_eq_ok_iff.1 h
  obtain ⟨name, value⟩ := m
  cases value with
  | misnamed value =>
    refine beq_eq_false_iff_ne.2 fun hname => ?_
    have hvalue := husable _ hm (by simp [hname])
    simp [Json.usable] at hvalue
  | _ => rfl

/-- The kind is selected by the members of reordered values alike. -/
theorem Kind.ofMembers_pairs {pairs : List (String × Json × Json)}
    (h : ∀ p ∈ pairs, p.2.1.Reordered p.2.2) (found : Option Kind) :
    Kind.ofMembers nested found (pairs.map fun p => (p.1, p.2.1)) =
      Kind.ofMembers nested found (pairs.map fun p => (p.1, p.2.2)) := by
  induction pairs generalizing found with
  | nil => rfl
  | cons p rest ih =>
    have hrest := ih fun q hq => h q (List.mem_cons_of_mem p hq)
    have hvalue := h p List.mem_cons_self
    have husable : p.2.1.usable = p.2.2.usable :=
      Bool.eq_iff_iff.2 (usable_iff_of_reordered hvalue)
    simp only [List.map_cons, Kind.ofMembers, hrest, husable, Kind.ofTag_reordered hvalue]

/-! ## The contents of a kind -/

/-- What the parts of values have to keep for descriptors: each its descriptor, and as a list its
descriptors. -/
structure KeepsContents (v w : Json) : Prop where
  reordered : v.Reordered w
  descriptor : ∀ nested, Keeps (ofJson nested) v w
  descriptors : Keeps (listOf (ofJson true)) v w

theorem KeepsContents.skippableMember (v w : Json) (h : KeepsContents v w)
    (hv : Json.skippableMember v = true) : Json.skippableMember w = true :=
  h.reordered.skippableMember hv

theorem alike_of_keepsContents {pairs : List (String × Json × Json)}
    (h : ∀ p ∈ pairs, KeepsContents p.2.1 p.2.2) :
    (Record.named (pairs.map fun p => (p.1, p.2.1))).Alike KeepsContents
      (.named (pairs.map fun p => (p.1, p.2.2))) :=
  ⟨.of_pairs h, rfl, rfl⟩

theorem keeps_onlyField {α : Type} {decode : Json → Except Fault (Option α)} {name : String}
    {pairs : List (String × Json × Json)} (h : ∀ p ∈ pairs, KeepsContents p.2.1 p.2.2)
    (hdecode : ∀ v w, KeepsContents v w → Keeps decode v w) {a : Option α}
    (ha : onlyField (pairs.map fun p => (p.1, p.2.1)) name
      ((Record.named (pairs.map fun p => (p.1, p.2.1))).field name decode) = .ok a) :
    onlyField (pairs.map fun p => (p.1, p.2.2)) name
      ((Record.named (pairs.map fun p => (p.1, p.2.2))).field name decode) = .ok a := by
  rw [onlyField, bind_eq_ok_iff] at ha ⊢
  obtain ⟨u, hcheck, hvalue⟩ := ha
  have halike := alike_of_keepsContents h
  rw [halike.field_eq name hcheck (by simp) hdecode]
  exact ⟨u, halike.check KeepsContents.skippableMember hcheck, hvalue⟩

theorem keeps_ofFields {pairs : List (String × Json × Json)}
    (h : ∀ p ∈ pairs, KeepsContents p.2.1 p.2.2) {kind : Kind} {d : Descriptor}
    (hd : ofFields (pairs.map fun p => (p.1, p.2.1)) kind = .ok d) :
    ofFields (pairs.map fun p => (p.1, p.2.2)) kind = .ok d := by
  cases kind with
  | ref =>
    simp only [ofFields, bind_eq_ok_iff] at hd ⊢
    obtain ⟨u, hcheck, hid⟩ := hd
    have halike := alike_of_keepsContents h
    have hfield := halike.field_eq "reference" hcheck (by simp)
      fun v w hvw => referenceOfJson_stable v w hvw.reordered
    rw [hfield]
    exact ⟨u, halike.check KeepsContents.skippableMember hcheck, hid⟩
  | array | map =>
    rw [ofFields, map_eq_ok_iff] at hd ⊢
    obtain ⟨element, helement, rfl⟩ := hd
    have hdecode : ∀ v w, KeepsContents v w → Keeps (nullable (ofJson true)) v w :=
      fun v w hvw => hvw.reordered.keeps_nullable (hvw.descriptor true)
    exact ⟨element, keeps_onlyField h hdecode helement, rfl⟩
  | union =>
    rw [ofFields, map_eq_ok_iff] at hd ⊢
    obtain ⟨types, htypes, rfl⟩ := hd
    have hdecode : ∀ v w, KeepsContents v w → Keeps (nullable (listOf (ofJson true))) v w :=
      fun v w hvw => hvw.reordered.keeps_nullable hvw.descriptors
    exact ⟨types, keeps_onlyField h hdecode htypes, rfl⟩
  | _ => exact hd

/-- The value of the only position behind a kind, which may be left out. -/
def onlyPosition {α : Type} (decode : Json → Except Fault (Option α))
    (make : Option α → Descriptor) : List Json → Except Fault Descriptor
  | [] => .ok (make none)
  | first :: extra => decode first >>= fun value => closed extra (make value)

/-- The descriptor of a kind whose contents stand in the positions behind it. -/
def ofPositions (items : List Json) : Kind → Except Fault Descriptor
  | .ref =>
    match items with
    | [] => .error .malformed
    | first :: extra => referenceOfJson first >>= fun id => closed extra (.ref id)
  | .array => onlyPosition (nullable (ofJson true)) (ofElement .array .array) items
  | .map => onlyPosition (nullable (ofJson true)) (ofElement .map .map) items
  | .union => onlyPosition (nullable (listOf (ofJson true))) ofTypes items
  | kind => closed items (ofPlainKind kind)

/-- A descriptor in an array is that of the kind in the first position. -/
theorem ofJson_array (first : Json) (items : List Json) :
    ofJson nested (.array (first :: items)) =
      Kind.ofTag nested first >>= fun kind =>
        if Json.usableItems items then ofPositions items kind else .error .malformed := by
  rw [ofJson]
  cases Kind.ofTag nested first with
  | error fault => rfl
  | ok kind =>
    simp only [ok_bind]
    split
    · cases items with
      | nil => cases kind <;> rfl
      | cons item extra =>
        cases kind with
        | ref => cases h : referenceOfJson item <;> simp [ofPositions, h, bind, Except.bind]
        | array | map =>
          cases item with
          | null => rfl
          | _ =>
            simp only [ofPositions, onlyPosition, nullable]
            cases ofJson true _ <;> rfl
        | union =>
          cases item with
          | null => rfl
          | array types =>
            simp only [ofPositions, onlyPosition, nullable, listOf, ← ofJsonList_eq_mapM]
            cases ofJsonList types <;> rfl
          | _ => rfl
        | _ => rfl
    · rfl

theorem closed_map {α β : Type} (f g : β → Json) (extra : List β) (value : α) :
    closed (extra.map f) value = closed (extra.map g) value := by
  cases extra <;> rfl

theorem keeps_onlyPosition {α : Type} {decode : Json → Except Fault (Option α)}
    {make : Option α → Descriptor} {pairs : List (Json × Json)}
    (h : ∀ p ∈ pairs, Keeps decode p.1 p.2) {d : Descriptor}
    (hd : onlyPosition decode make (pairs.map (·.1)) = .ok d) :
    onlyPosition decode make (pairs.map (·.2)) = .ok d := by
  cases pairs with
  | nil => exact hd
  | cons p extra =>
    simp only [List.map_cons, onlyPosition, bind_eq_ok_iff] at hd ⊢
    obtain ⟨value, hvalue, hclosed⟩ := hd
    exact ⟨value, h p List.mem_cons_self value hvalue, closed_map _ _ extra _ ▸ hclosed⟩

theorem keeps_ofPositions {pairs : List (Json × Json)} (h : ∀ p ∈ pairs, KeepsContents p.1 p.2)
    {kind : Kind} {d : Descriptor} (hd : ofPositions (pairs.map (·.1)) kind = .ok d) :
    ofPositions (pairs.map (·.2)) kind = .ok d := by
  cases kind with
  | ref =>
    cases pairs with
    | nil => exact hd
    | cons p extra =>
      simp only [List.map_cons, ofPositions, bind_eq_ok_iff] at hd ⊢
      obtain ⟨id, hid, hclosed⟩ := hd
      have hfirst := (h p List.mem_cons_self).reordered
      exact ⟨id, referenceOfJson_stable _ _ hfirst id hid, closed_map _ _ extra _ ▸ hclosed⟩
  | array | map =>
    refine keeps_onlyPosition (fun p hp => ?_) hd
    exact (h p hp).reordered.keeps_nullable ((h p hp).descriptor true)
  | union =>
    refine keeps_onlyPosition (fun p hp => ?_) hd
    exact (h p hp).reordered.keeps_nullable (h p hp).descriptors
  | _ => exact (closed_map _ _ pairs _).symm.trans hd

/-! ## Descriptors -/

theorem keeps_object {pairs : List (String × Json × Json)} {members members' : List (String × Json)}
    (h : ∀ p ∈ pairs, KeepsContents p.2.1 p.2.2) (apart : NamesApart members)
    (perm : members.Perm (pairs.map fun p => (p.1, p.2.1)))
    (perm' : members'.Perm (pairs.map fun p => (p.1, p.2.2))) :
    Keeps (ofJson nested) (.object members) (.object members') := by
  intro d hd
  have hnodup : (members.map (·.1)).Nodup := by
    have hkind := hd
    rw [ofJson_object, bind_eq_ok_iff] at hkind
    obtain ⟨kind, hkind, -⟩ := hkind
    exact apart.nodup (named_of_ofMembers hkind)
  refine orderFree.keeps_object hnodup perm perm' (fun d hd => ?_) d hd
  rw [ofJson_object, bind_eq_ok_iff] at hd ⊢
  obtain ⟨kind, hkind, hfields⟩ := hd
  rw [Kind.ofMembers_pairs fun p hp => (h p hp).reordered] at hkind
  exact ⟨kind, hkind, keeps_ofFields h hfields⟩

theorem keeps_array {pairs : List (Json × Json)} (h : ∀ p ∈ pairs, KeepsContents p.1 p.2) :
    Keeps (ofJson nested) (.array (pairs.map (·.1))) (.array (pairs.map (·.2))) := by
  intro d hd
  cases pairs with
  | nil => exact hd
  | cons p rest =>
    have hrest : ∀ q ∈ rest, KeepsContents q.1 q.2 := fun q hq => h q (List.mem_cons_of_mem p hq)
    have husable : Json.usableItems (rest.map (·.1)) = Json.usableItems (rest.map (·.2)) := by
      have hitems := usable_iff_of_reordered (.array fun q hq => (hrest q hq).reordered)
      simpa only [Json.usable] using Bool.eq_iff_iff.2 hitems
    rw [List.map_cons, ofJson_array, bind_eq_ok_iff] at hd ⊢
    obtain ⟨kind, hkind, hpositions⟩ := hd
    rw [Kind.ofTag_reordered (h p List.mem_cons_self).reordered] at hkind
    refine ⟨kind, hkind, ?_⟩
    by_cases hall : Json.usableItems (rest.map (·.2)) = true
    · rw [husable, if_pos hall] at hpositions
      rw [if_pos hall]
      exact keeps_ofPositions hrest hpositions
    · rw [husable, if_neg hall] at hpositions
      cases hpositions

/-- Reordered values decode to the same descriptor, and as lists to the same descriptors. -/
theorem keepsContents (h : v.Reordered w) : KeepsContents v w := by
  induction h with
  | null => exact ⟨.null, fun _ _ hd => hd, fun _ hds => hds⟩
  | bool b => exact ⟨.bool b, fun _ _ hd => hd, fun _ hds => hds⟩
  | number n => exact ⟨.number n, fun _ _ hd => hd, fun _ hds => hds⟩
  | string s => exact ⟨.string s, fun _ _ hd => hd, fun _ hds => hds⟩
  | inert value => exact ⟨.inert value, fun _ _ hd => hd, fun _ hds => hds⟩
  | misnamed value => exact ⟨.misnamed value, fun _ _ hd => hd, fun _ hds => hds⟩
  | array items ih =>
    exact ⟨.array items, fun _ => keeps_array ih, Json.keeps_listOf fun p hp =>
      (ih p hp).descriptor true⟩
  | object values apart apart' perm perm' ih =>
    exact ⟨.object values apart apart' perm perm', fun _ => keeps_object ih apart perm perm',
      fun _ hds => hds⟩

/-- The order of members does not matter to a descriptor, at any depth. -/
theorem stable : Stable (ofJson nested) :=
  fun _ _ h => (keepsContents h).descriptor nested

end ConstructSchema.Descriptor
