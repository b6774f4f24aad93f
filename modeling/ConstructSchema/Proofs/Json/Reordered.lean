import ConstructSchema.Proofs.Json.Order

/-!
Values that differ only in the order of the members of their objects.

`Json.Reordered` relates two such values, at every depth and with no name twice in an object. A
decoder is `Stable` if it gives the same for both whenever it gives something. Whether a part can be
used or passed over does not depend on the order (`Reordered.iff_of_forall`), so every decoder that
reads a record by the names of its fields is stable if the decoders of the fields are
(`ReadsRecord.stable`); lists, tables and optional values of what is decoded by a stable decoder are
stable, too.
-/

namespace ConstructSchema

/-! ## Records -/

namespace Record

variable {V α : Type} {R : V → V → Prop} {skippable : V → Bool}
  {known : List (String × Option Fault)}

/-- Members of the same names, with related values. -/
def MembersAlike (R : V → V → Prop) (members members' : List (String × V)) : Prop :=
  List.Forall₂ (fun m m' => m.1 = m'.1 ∧ R m.2 m'.2) members members'

/-- Two records with the same fields in the same places and related values. -/
structure Alike (R : V → V → Prop) (r r' : Record V) : Prop where
  members : MembersAlike R r.members r'.members
  positional_eq : r'.positional = r.positional
  overlong_eq : r'.overlong = r.overlong

/-- Members that stand in the same order are alike if their values are. -/
theorem MembersAlike.of_pairs {pairs : List (String × V × V)} (h : ∀ p ∈ pairs, R p.2.1 p.2.2) :
    MembersAlike R (pairs.map fun p => (p.1, p.2.1)) (pairs.map fun p => (p.1, p.2.2)) := by
  rw [MembersAlike, List.forall₂_map_left_iff, List.forall₂_map_right_iff, List.forall₂_same]
  exact fun p hp => ⟨rfl, h p hp⟩

/-- Items that stand in the same order are alike under the names of their positions. -/
theorem MembersAlike.zip {pairs : List (V × V)} (h : ∀ p ∈ pairs, R p.1 p.2)
    (names : List String) :
    MembersAlike R (names.zip (pairs.map (·.1))) (names.zip (pairs.map (·.2))) := by
  induction names generalizing pairs with
  | nil => exact .nil
  | cons name names ih =>
    cases pairs with
    | nil => exact .nil
    | cons p rest =>
      exact .cons ⟨rfl, h p List.mem_cons_self⟩ (ih fun q hq => h q (List.mem_cons_of_mem p hq))

/-- What is found under a name is related, if there is anything. -/
theorem MembersAlike.lookup {members members' : List (String × V)}
    (h : MembersAlike R members members') (name : String) :
    Option.Rel R (members.lookup name) (members'.lookup name) := by
  induction h with
  | nil => exact .none
  | @cons m m' rest rest' hm _ ih =>
    obtain ⟨k, v⟩ := m
    obtain ⟨k', w⟩ := m'
    obtain ⟨rfl, hvalue⟩ := hm
    rw [lookup_cons_eq_ite, lookup_cons_eq_ite]
    split
    · exact .some hvalue
    · exact ih

/-- A check that members pass is passed by members like them. -/
theorem MembersAlike.checkMembers {members members' : List (String × V)}
    (h : MembersAlike R members members')
    (hskip : ∀ v w, R v w → skippable v = true → skippable w = true) {seen : List String}
    (hcheck : checkMembers skippable known seen members = .ok ()) :
    checkMembers skippable known seen members' = .ok () := by
  induction h generalizing seen with
  | nil => exact hcheck
  | @cons m m' rest rest' hm _ ih =>
    obtain ⟨k, v⟩ := m
    obtain ⟨k', w⟩ := m'
    obtain ⟨rfl, hvalue⟩ := hm
    rw [Record.checkMembers] at hcheck ⊢
    cases hlookup : known.lookup k with
    | none =>
      simp only [hlookup] at hcheck ⊢
      by_cases hv : skippable v = true
      · rw [if_pos hv] at hcheck
        rw [if_pos (hskip v w hvalue hv)]
        exact ih hcheck
      · simp [hv] at hcheck
    | some fault =>
      simp only [hlookup] at hcheck ⊢
      by_cases hseen : k ∈ seen
      · simp [hseen] at hcheck
      · rw [if_neg hseen] at hcheck ⊢
        cases fault with
        | some fault => cases hcheck
        | none => exact ih hcheck

theorem check_eq_ok_iff {r : Record V} :
    r.check skippable known = .ok () ↔
      checkMembers skippable known [] r.members = .ok () ∧ r.overlong = false := by
  rw [check]
  cases checkMembers skippable known [] r.members with
  | error fault => simp
  | ok => cases r.overlong <;> simp

variable {r r' : Record V}

theorem Alike.check (h : r.Alike R r')
    (hskip : ∀ v w, R v w → skippable v = true → skippable w = true)
    (hcheck : r.check skippable known = .ok ()) : r'.check skippable known = .ok () := by
  rw [check_eq_ok_iff] at hcheck ⊢
  exact ⟨h.members.checkMembers hskip hcheck.1, h.overlong_eq.trans hcheck.2⟩

/-- A field that is there and was checked has a value, and records alike give it the same. -/
theorem Alike.field_eq (h : r.Alike R r') (name : String) {decode : V → Except Fault α}
    (hcheck : r.check skippable known = .ok ())
    (hknown : known.lookup name = some (faultOf (r.field name decode)))
    (hdecode : ∀ v w, R v w → ∀ a, decode v = .ok a → decode w = .ok a) :
    r'.field name decode = r.field name decode := by
  have hrel := h.members.lookup name
  unfold field at hknown ⊢
  cases hv : r.members.lookup name with
  | none =>
    rw [hv] at hrel
    cases hw : r'.members.lookup name with
    | none => rfl
    | some w => rw [hw] at hrel; cases hrel
  | some v =>
    rw [hv] at hrel
    cases hw : r'.members.lookup name with
    | none => rw [hw] at hrel; cases hrel
    | some w =>
      rw [hw] at hrel
      cases hrel with
      | some hvalue =>
        have hpasses := (checkMembers_eq_ok_iff.1 (check_eq_ok_iff.1 hcheck).1).1 _
          (mem_of_lookup_eq_some hv)
        rw [hv] at hknown
        rw [Passes, hknown] at hpasses
        cases ha : decode v with
        | error fault => simp [ha, faultOf] at hpasses
        | ok a => simp [ha, hdecode v w hvalue a ha]

theorem Alike.required_eq (h : r.Alike R r') (name : String) (value : Option (Except Fault α)) :
    r'.required name value = r.required name value := by
  cases value with
  | none => rw [required, required, h.positional_eq]
  | some value => rfl

end Record

namespace Json

open Record (MembersAlike Alike)

/-! ## Reordered values -/

/-- A member whose name cannot be read stands under no name. -/
def nameless : String × Json → Bool
  | (name, .misnamed _) => name == ""
  | _ => false

/-- No name stands twice among members. -/
def NamesApart (members : List (String × Json)) : Prop :=
  ((members.filter fun m => !nameless m).map (·.1)).Nodup

/-- Two values that differ only in the order of the members of objects, at any depth; no object has
a name twice. -/
inductive Reordered : Json → Json → Prop
  | null : Reordered .null .null
  | bool (b : Bool) : Reordered (.bool b) (.bool b)
  | number (n : Number) : Reordered (.number n) (.number n)
  | string (s : String) : Reordered (.string s) (.string s)
  | inert {v w : Json} (value : Reordered v w) : Reordered (.inert v) (.inert w)
  | misnamed {v w : Json} (value : Reordered v w) : Reordered (.misnamed v) (.misnamed w)
  | array {pairs : List (Json × Json)} (items : ∀ p ∈ pairs, Reordered p.1 p.2) :
    Reordered (.array (pairs.map (·.1))) (.array (pairs.map (·.2)))
  | object {pairs : List (String × Json × Json)} {members members' : List (String × Json)}
    (values : ∀ p ∈ pairs, Reordered p.2.1 p.2.2)
    (apart : NamesApart members) (apart' : NamesApart members')
    (perm : members.Perm (pairs.map fun p => (p.1, p.2.1)))
    (perm' : members'.Perm (pairs.map fun p => (p.1, p.2.2))) :
    Reordered (.object members) (.object members')

/-- Names that do not stand twice at all. -/
theorem NamesApart.of_nodup {members : List (String × Json)} (h : (members.map (·.1)).Nodup) :
    NamesApart members :=
  h.sublist (List.filter_sublist.map _)

namespace Reordered

variable {v w : Json}

/-- The members of an object from the last to the first. -/
theorem reverse {pairs : List (String × Json × Json)} (hnames : (pairs.map (·.1)).Nodup)
    (hvalues : ∀ p ∈ pairs, p.2.1.Reordered p.2.2) :
    (Json.object (pairs.map fun p => (p.1, p.2.1))).Reordered
      (.object (pairs.reverse.map fun p => (p.1, p.2.2))) := by
  have hperm := (List.reverse_perm pairs).map fun p => (p.1, p.2.2)
  have hnodup : ((pairs.map fun p => (p.1, p.2.2)).map (·.1)).Nodup := by
    simpa [List.map_map, Function.comp_def] using hnames
  refine .object hvalues (.of_nodup ?_) (.of_nodup ?_) (.refl _) hperm
  · simpa [List.map_map, Function.comp_def] using hnames
  · exact (hperm.map (·.1)).nodup_iff.2 hnodup

theorem symm (h : v.Reordered w) : w.Reordered v := by
  induction h with
  | null => exact .null
  | bool b => exact .bool b
  | number n => exact .number n
  | string s => exact .string s
  | inert _ ih => exact .inert ih
  | misnamed _ ih => exact .misnamed ih
  | @array pairs _ ih =>
    have hitems : ∀ p ∈ pairs.map Prod.swap, Reordered p.1 p.2 := by
      rw [List.forall_mem_map]
      exact ih
    simpa [List.map_map, Function.comp_def] using Reordered.array hitems
  | @object pairs members members' _ apart apart' perm perm' ih =>
    have hvalues : ∀ p ∈ pairs.map fun p => (p.1, p.2.2, p.2.1), Reordered p.2.1 p.2.2 := by
      rw [List.forall_mem_map]
      exact ih
    refine .object hvalues apart' apart ?_ ?_
    · simpa [List.map_map, Function.comp_def] using perm'
    · simpa [List.map_map, Function.comp_def] using perm

/-- What holds of an array or object exactly if it holds of all its parts does not depend on the
order of members. -/
theorem iff_of_forall {P : Json → Prop}
    (harray : ∀ items, P (.array items) ↔ ∀ item ∈ items, P item)
    (hobject : ∀ members, P (.object members) ↔ ∀ m ∈ members, P m.2)
    (hinert : ∀ {v w}, (P v ↔ P w) → (P (.inert v) ↔ P (.inert w)))
    (hmisnamed : ∀ {v w}, (P v ↔ P w) → (P (.misnamed v) ↔ P (.misnamed w)))
    (h : v.Reordered w) : P v ↔ P w := by
  induction h with
  | null | bool | number | string => exact Iff.rfl
  | inert _ ih => exact hinert ih
  | misnamed _ ih => exact hmisnamed ih
  | array _ ih =>
    rw [harray, harray, List.forall_mem_map, List.forall_mem_map]
    exact forall₂_congr ih
  | @object pairs members members' _ _ _ perm perm' ih =>
    have hall : ∀ {members : List (String × Json)} {value : Json × Json → Json},
        members.Perm (pairs.map fun p => (p.1, value p.2)) →
          ((∀ m ∈ members, P m.2) ↔ ∀ p ∈ pairs, P (value p.2)) := by
      intro members value hperm
      simp only [hperm.mem_iff, List.forall_mem_map]
    rw [hobject, hobject, hall perm, hall perm']
    exact forall₂_congr ih

end Reordered

/-! ## Parts that are passed over or used -/

theorem skippableItems_iff {items : List Json} :
    skippableItems items = true ↔ ∀ item ∈ items, item.skippable = true := by
  induction items with
  | nil => simp [skippableItems]
  | cons item rest ih => rw [skippableItems, Bool.and_eq_true, ih, List.forall_mem_cons]

theorem skippableMembers_iff {members : List (String × Json)} :
    skippableMembers members = true ↔ ∀ m ∈ members, m.2.skippable = true := by
  induction members with
  | nil => simp [skippableMembers]
  | cons m rest ih => rw [skippableMembers, Bool.and_eq_true, ih, List.forall_mem_cons]

theorem Reordered.skippable_iff {v w : Json} (h : v.Reordered w) :
    v.skippable = true ↔ w.skippable = true :=
  h.iff_of_forall (P := fun v => v.skippable = true)
    (fun _ => by rw [skippable, skippableItems_iff])
    (fun _ => by rw [skippable, skippableMembers_iff])
    (fun h => by simpa [skippable] using h) (fun h => by simpa [skippable] using h)

theorem Reordered.skippableMember {v w : Json} (h : v.Reordered w)
    (hv : skippableMember v = true) : skippableMember w = true := by
  have hskip := h.skippable_iff
  cases h <;> first | exact hv | exact hskip.1 hv

/-! ## Stable decoders -/

variable {α : Type} {decode : Json → Except Fault α} {v w : Json}

/-- What a decoder gives for a value it gives for another, too. -/
def Keeps (decode : Json → Except Fault α) (v w : Json) : Prop :=
  ∀ a, decode v = .ok a → decode w = .ok a

/-- A decoder to which the order of the members of objects does not matter, at any depth. -/
def Stable (decode : Json → Except Fault α) : Prop :=
  ∀ v w, v.Reordered w → Keeps decode v w

theorem text_stable : Stable text := by
  intro v w h s hs
  cases h <;> exact hs

theorem flag_stable : Stable flag := by
  intro v w h b hb
  cases h <;> exact hb

/-- Null stays null, and nothing else becomes null. -/
theorem Reordered.keeps_nullable (h : v.Reordered w) (hdecode : Keeps decode v w) :
    Keeps (nullable decode) v w := by
  intro a ha
  cases h with
  | null => exact ha
  | _ =>
    simp only [nullable, map_eq_ok_iff] at ha ⊢
    obtain ⟨value, hvalue, rfl⟩ := ha
    exact ⟨value, hdecode value hvalue, rfl⟩

theorem Stable.nullable (h : Stable decode) : Stable (nullable decode) :=
  fun v w hvw => hvw.keeps_nullable (h v w hvw)

/-- Items that keep what they decode to make a list that does. -/
theorem keeps_listOf {pairs : List (Json × Json)} (h : ∀ p ∈ pairs, Keeps decode p.1 p.2) :
    Keeps (listOf decode) (.array (pairs.map (·.1))) (.array (pairs.map (·.2))) := by
  intro as has
  simp only [listOf] at has ⊢
  induction pairs generalizing as with
  | nil => exact has
  | cons p rest ih =>
    rw [List.map_cons, mapM_cons_eq_ok_iff] at has ⊢
    obtain ⟨a, others, ha, hothers, rfl⟩ := has
    exact ⟨a, others, h p List.mem_cons_self a ha,
      ih (fun q hq => h q (List.mem_cons_of_mem p hq)) others hothers, rfl⟩

theorem Stable.listOf (h : Stable decode) : Stable (listOf decode) := by
  intro v w hvw as has
  cases hvw with
  | array items => exact keeps_listOf (fun p hp => h _ _ (items p hp)) as has
  | _ => cases has

/-! ## Objects -/

/-- Without members that stand under no name, no name stands twice. -/
theorem NamesApart.nodup {members : List (String × Json)} (h : NamesApart members)
    (hnamed : ∀ m ∈ members, nameless m = false) : (members.map (·.1)).Nodup := by
  have hfilter : members.filter (fun m => !nameless m) = members :=
    List.filter_eq_self.2 fun m hm => by simp [hnamed m hm]
  rwa [NamesApart, hfilter] at h

/-- A decoder for which the order does not matter may be asked for the members in a common order. -/
theorem OrderFree.keeps_object (hfree : OrderFree decode) {pairs : List (String × Json × Json)}
    {members members' : List (String × Json)} (hnodup : (members.map (·.1)).Nodup)
    (perm : members.Perm (pairs.map fun p => (p.1, p.2.1)))
    (perm' : members'.Perm (pairs.map fun p => (p.1, p.2.2)))
    (hmiddle : Keeps decode (.object (pairs.map fun p => (p.1, p.2.1)))
      (.object (pairs.map fun p => (p.1, p.2.2)))) :
    Keeps decode (.object members) (.object members') := by
  intro a ha
  have hnodup' : ((pairs.map fun p => (p.1, p.2.2)).map (·.1)).Nodup := by
    have hnames := (perm.map (·.1)).nodup_iff.1 hnodup
    simpa [List.map_map, Function.comp_def] using hnames
  exact hfree perm'.symm hnodup' a (hmiddle a (hfree perm hnodup a ha))

theorem tableOf_orderFree : OrderFree (tableOf decode) := by
  intro members members' h hnodup t ht
  obtain ⟨entries, hentries, rfl⟩ := map_eq_ok_iff.1 ht
  obtain ⟨entries', hentries', hperm⟩ := exists_mapM_perm h hentries
  have hnames : (entries.map (·.1)).Nodup := by
    rwa [Table.names_of_mapM_entries (f := fun _ => decode) hentries]
  have hsame : Table.ofList entries' = Table.ofList entries :=
    Table.ofList_eq_of_perm (hperm.symm.trans (Table.entries_ofList_perm hnames).symm)
  exact map_eq_ok_iff.2 ⟨entries', hentries', hsame⟩

/-- Values that keep what they decode to make a table that does. -/
theorem keeps_tableOf {pairs : List (String × Json × Json)}
    (h : ∀ p ∈ pairs, Keeps decode p.2.1 p.2.2) :
    Keeps (tableOf decode) (.object (pairs.map fun p => (p.1, p.2.1)))
      (.object (pairs.map fun p => (p.1, p.2.2))) := by
  intro t ht
  obtain ⟨entries, hentries, rfl⟩ := map_eq_ok_iff.1 ht
  refine map_eq_ok_iff.2 ⟨entries, ?_, rfl⟩
  clear ht
  induction pairs generalizing entries with
  | nil => exact hentries
  | cons p rest ih =>
    rw [List.map_cons, mapM_cons_eq_ok_iff] at hentries ⊢
    obtain ⟨e, others, he, hothers, rfl⟩ := hentries
    obtain ⟨hname, hvalue⟩ := Table.map_mk_eq_ok_iff.1 he
    refine ⟨e, others, ?_, ih (fun q hq => h q (List.mem_cons_of_mem p hq)) others hothers, rfl⟩
    exact Table.map_mk_eq_ok_iff.2 ⟨hname, h p List.mem_cons_self _ hvalue⟩

/-- A table whose values are decoded by a stable decoder, which takes no member without a name. -/
theorem Stable.tableOf (h : Stable decode) (hnamed : ∀ v a, decode (.misnamed v) ≠ .ok a) :
    Stable (tableOf decode) := by
  intro v w hvw t ht
  cases hvw with
  | object values apart _ perm perm' =>
    obtain ⟨entries, hentries, -⟩ := map_eq_ok_iff.1 ht
    refine tableOf_orderFree.keeps_object (apart.nodup fun m hm => ?_) perm perm'
      (keeps_tableOf fun p hp => h _ _ (values p hp)) t ht
    obtain ⟨e, he⟩ := exists_of_mapM hentries hm
    obtain ⟨name, value⟩ := m
    cases value with
    | misnamed value => exact absurd (Table.map_mk_eq_ok_iff.1 he).2 (hnamed value _)
    | _ => rfl
  | _ => cases ht

/-! ## Decoders of records -/

/-- Members that pass a check all stand under names, as the one of a field is never empty. -/
theorem named_of_checkFields {members : List (String × Json)}
    {known : List (String × Option Fault)} (hknown : known.lookup "" = none)
    (hcheck : checkFields (.named members) known = .ok ()) :
    ∀ m ∈ members, nameless m = false := by
  intro m hm
  obtain ⟨name, value⟩ := m
  have hpasses := (Record.checkMembers_eq_ok_iff.1 (Record.check_eq_ok_iff.1 hcheck).1).1 _ hm
  cases value with
  | misnamed value =>
    refine beq_eq_false_iff_ne.2 fun hname => ?_
    simp [Record.Passes, hname, hknown, skippableMember] at hpasses
  | _ => rfl

/-- A decoder that reads a record: it checks the fields it knows and goes on with their values. -/
structure ReadsRecord (decode : Json → Except Fault α) (names : List String)
    (known : Record Json → List (String × Option Fault)) (rest : Record Json → Except Fault α) :
    Prop where
  eq : ∀ j, decode j = j.record names >>= fun r => checkFields r (known r) >>= fun _ => rest r
  /-- No field has an empty name. -/
  lookup_empty : ∀ r, (known r).lookup "" = none
  /-- Records alike have the same fields, once they are checked. -/
  alike : ∀ r r', r.Alike Reordered r' → checkFields r (known r) = .ok () →
    known r' = known r ∧ rest r' = rest r

namespace ReadsRecord

variable {names : List String} {known : Record Json → List (String × Option Fault)}
  {rest : Record Json → Except Fault α} (h : ReadsRecord decode names known rest)
include h

/-- Records alike decode to the same. -/
theorem keeps {r r' : Record Json} (hr : v.record names = .ok r) (hr' : w.record names = .ok r')
    (halike : r.Alike Reordered r') : Keeps decode v w := by
  intro a ha
  rw [h.eq, hr, ok_bind, bind_eq_ok_iff] at ha
  obtain ⟨u, hcheck, hrest⟩ := ha
  obtain ⟨hknown', hrest'⟩ := h.alike r r' halike hcheck
  rw [h.eq, hr', ok_bind, bind_eq_ok_iff, hknown', hrest']
  exact ⟨u, halike.check (fun _ _ => Reordered.skippableMember) hcheck, hrest⟩

theorem stable (hfree : OrderFree decode) : Stable decode := by
  intro v w hvw a ha
  cases hvw with
  | @array pairs items =>
    have halike : (Record.byPosition names (pairs.map (·.1))).Alike Reordered
        (.byPosition names (pairs.map (·.2))) :=
      ⟨.zip items names, rfl, by simp [Record.byPosition]⟩
    exact h.keeps rfl rfl halike a ha
  | @object pairs members members' values apart _ perm perm' =>
    have hnodup : (members.map (·.1)).Nodup := by
      have hchecked := ha
      rw [h.eq, record_object, ok_bind, bind_eq_ok_iff] at hchecked
      obtain ⟨u, hcheck, -⟩ := hchecked
      exact apart.nodup (named_of_checkFields (h.lookup_empty _) hcheck)
    refine hfree.keeps_object hnodup perm perm' ?_ a ha
    exact h.keeps rfl rfl ⟨MembersAlike.of_pairs values, rfl, rfl⟩
  | _ =>
    rw [h.eq] at ha
    simp [record, bind, Except.bind] at ha

end ReadsRecord

end Json

end ConstructSchema
