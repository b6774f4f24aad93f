import ConstructSchema.Proofs.Outcome
import ConstructSchema.Proofs.Text.ByteOrder
import ConstructSchema.Table
import Mathlib.Data.List.Nodup

/-!
Tables as finite maps: what a lookup answers after each operation.

Everything is said of `get?`. An insertion changes the answer for its own name only
(`get?_insert`), the table of a list of pairs answers with the last pair of a name (`get?_ofList`),
and tables with the same answers are equal (`eq_of_get?_eq`). Two results are for tables made of
other tables: `traverse_eq_ok_iff_pointwise` for values that keep their names, and
`get?_ofList_of_mapM` for values that choose new names, where of two values with one new name the
value with the greater old name stays.
-/

namespace ConstructSchema

/-! ## Sorted lists of entries -/

/-- A lookup asks the first entry, and goes on if that has another name. -/
theorem lookup_cons_eq_ite {α : Type} (k name : String) (value : α) (rest : List (String × α)) :
    ((name, value) :: rest).lookup k = if k = name then some value else rest.lookup k := by
  by_cases h : k = name
  · simp [h]
  · simp [List.lookup_cons, beq_eq_false_iff_ne.2 h, h]

/-- An insertion changes the answer for its own name only, in any list of entries. -/
theorem lookup_insertEntry {α : Type} (name k : String) (value : α) (entries : List (String × α)) :
    (insertEntry name value entries).lookup k =
      if k = name then some value else entries.lookup k := by
  induction entries with
  | nil => by_cases h : k = name <;> simp [insertEntry, h]
  | cons first rest ih =>
    obtain ⟨other, old⟩ := first
    rw [insertEntry]
    split
    · rw [lookup_cons_eq_ite]
    · split
      · rename_i hname
        subst hname
        simp only [lookup_cons_eq_ite]
        split <;> rfl
      · rename_i hname
        rw [lookup_cons_eq_ite, lookup_cons_eq_ite, ih]
        by_cases hk : k = other
        · subst hk
          simp [Ne.symm hname]
        · simp [hk]

/-- What a lookup finds is there. -/
theorem mem_of_lookup_eq_some {α : Type} {entries : List (String × α)} {k : String} {value : α}
    (h : entries.lookup k = some value) : (k, value) ∈ entries := by
  obtain ⟨before, behind, rfl, _⟩ := List.lookup_eq_some_iff.1 h
  exact List.mem_append_right before List.mem_cons_self

/-- Where no name stands twice, a lookup finds exactly what is there. -/
theorem lookup_eq_some_iff_mem {α : Type} {entries : List (String × α)}
    (h : (entries.map (·.1)).Nodup) {k : String} {value : α} :
    entries.lookup k = some value ↔ (k, value) ∈ entries := by
  induction entries with
  | nil => simp
  | cons first rest ih =>
    obtain ⟨other, old⟩ := first
    rw [List.map_cons, List.nodup_cons] at h
    obtain ⟨hother, hrest⟩ := h
    by_cases hk : k = other
    · subst hk
      have hnot : (k, value) ∉ rest := fun hm => hother (List.mem_map.2 ⟨_, hm, rfl⟩)
      simp [hnot, eq_comm]
    · simp [lookup_cons_eq_ite, hk, ih hrest]

/-- A new name is put between two parts of the entries. -/
theorem exists_insertEntry_eq_append {α : Type} {name : String} (value : α)
    {entries : List (String × α)} (h : entries.lookup name = none) :
    ∃ l₁ l₂, entries = l₁ ++ l₂ ∧ insertEntry name value entries = l₁ ++ (name, value) :: l₂ := by
  induction entries with
  | nil => exact ⟨[], [], rfl, rfl⟩
  | cons first rest ih =>
    obtain ⟨other, old⟩ := first
    rw [lookup_cons_eq_ite] at h
    split at h
    · cases h
    · rename_i hname
      rw [insertEntry, if_neg hname]
      split
      · exact ⟨[], (other, old) :: rest, rfl, rfl⟩
      · obtain ⟨l₁, l₂, hrest, hinsert⟩ := ih h
        exact ⟨(other, old) :: l₁, l₂, by rw [hrest]; rfl, by rw [hinsert]; rfl⟩

theorem Ascending.nodup_names {α : Type} {entries : List (String × α)} (h : Ascending entries) :
    (entries.map (·.1)).Nodup := by
  refine List.pairwise_map.2 (h.imp ?_)
  intro a b hlt heq
  rw [heq] at hlt
  exact String.lt_irrefl _ hlt

namespace Table

variable {ε α β : Type}

/-! ## Lookup -/

theorem get?_eq_some_iff {t : Table α} {k : String} {value : α} :
    t.get? k = some value ↔ (k, value) ∈ t.entries :=
  lookup_eq_some_iff_mem t.ascending.nodup_names

@[simp] theorem get?_empty (k : String) : (empty : Table α).get? k = none := rfl

@[simp] theorem get?_insert (t : Table α) (name k : String) (value : α) :
    (t.insert name value).get? k = if k = name then some value else t.get? k :=
  lookup_insertEntry name k value t.entries

/-- A change of each value changes each answer in the same way. -/
@[simp] theorem get?_mapWithName (f : String → α → β) (t : Table α) (k : String) :
    (t.mapWithName f).get? k = (t.get? k).map (f k) := by
  rw [get?, get?, entries_mapWithName]
  induction t.entries with
  | nil => rfl
  | cons first rest ih =>
    rw [List.map_cons, lookup_cons_eq_ite, lookup_cons_eq_ite, ih]
    by_cases hk : k = first.1
    · rw [if_pos hk, if_pos hk, hk]
      rfl
    · rw [if_neg hk, if_neg hk]

theorem contains_iff {t : Table α} {k : String} :
    t.contains k = true ↔ ∃ value, t.get? k = some value :=
  Option.isSome_iff_exists

theorem mem_names_iff {t : Table α} {k : String} :
    k ∈ t.names ↔ ∃ value, t.get? k = some value := by
  simp [names, get?_eq_some_iff]

theorem get?_eq_none_iff {t : Table α} {k : String} : t.get? k = none ↔ k ∉ t.names := by
  rw [mem_names_iff, Option.eq_none_iff_forall_ne_some, not_exists]

theorem mem_names_insert_iff {t : Table α} {name k : String} {value : α} :
    k ∈ (t.insert name value).names ↔ k = name ∨ k ∈ t.names := by
  by_cases h : k = name <;> simp [mem_names_iff, h]

theorem mem_values_iff {t : Table α} {value : α} :
    value ∈ t.values ↔ ∃ k, t.get? k = some value := by
  simp [values, get?_eq_some_iff]

/-- The names of a table strictly ascend. -/
theorem pairwise_names (t : Table α) : t.names.Pairwise (· < ·) :=
  List.pairwise_map.2 t.ascending

/-- They ascend byte by byte. -/
theorem pairwise_bytes (t : Table α) : (t.names.map bytes).Pairwise (· < ·) :=
  List.pairwise_map.2 (t.pairwise_names.imp lt_iff_bytes_lt.1)

/-- Two tables with the same answers are equal: both list their entries in the one strict order. -/
theorem eq_of_get?_eq {s t : Table α} (h : ∀ k, s.get? k = t.get? k) : s = t := by
  apply Table.ext
  have hperm : s.entries.Perm t.entries := by
    rw [List.perm_ext_iff_of_nodup (List.Nodup.of_map _ s.ascending.nodup_names)
      (List.Nodup.of_map _ t.ascending.nodup_names)]
    rintro ⟨k, value⟩
    rw [← get?_eq_some_iff, ← get?_eq_some_iff, h]
  refine hperm.eq_of_pairwise ?_ s.ascending t.ascending
  intro a b _ _ hab hba
  exact absurd (String.lt_trans hab hba) (String.lt_irrefl a.1)

/-- Insertions under two names may be exchanged. -/
theorem insert_comm (t : Table α) {name other : String} (h : name ≠ other) (value new : α) :
    (t.insert name value).insert other new = (t.insert other new).insert name value := by
  apply eq_of_get?_eq
  intro k
  simp only [get?_insert]
  split
  · rename_i hk
    rw [if_neg fun hname => h (hname.symm.trans hk)]
  · rfl

theorem mapWithName_insert (f : String → α → β) (t : Table α) (name : String) (value : α) :
    (t.insert name value).mapWithName f = (t.mapWithName f).insert name (f name value) := by
  apply eq_of_get?_eq
  intro k
  rw [get?_mapWithName, get?_insert, get?_insert, get?_mapWithName]
  split
  · rename_i hk
    rw [hk]
    rfl
  · rfl

@[simp] theorem values_mapWithName (f : α → β) (t : Table α) :
    (t.mapWithName fun _ a => f a).values = t.values.map f := by
  simp [values]

/-- A value under a new name stands between two parts of the values. -/
theorem exists_values_insert {t : Table α} {name : String} (value : α) (h : t.get? name = none) :
    ∃ l₁ l₂, t.values = l₁ ++ l₂ ∧ (t.insert name value).values = l₁ ++ value :: l₂ := by
  obtain ⟨l₁, l₂, hentries, hinsert⟩ := exists_insertEntry_eq_append value h
  refine ⟨l₁.map (·.2), l₂.map (·.2), ?_, ?_⟩
  · rw [values, hentries, List.map_append]
  · rw [values, entries_insert, hinsert, List.map_append, List.map_cons]

/-! ## Tables of lists -/

theorem get?_foldl_insert (pairs : List (String × α)) (t : Table α) (k : String) :
    (pairs.foldl (fun t p => t.insert p.1 p.2) t).get? k =
      (pairs.reverse.lookup k).or (t.get? k) := by
  induction pairs generalizing t with
  | nil => simp
  | cons p rest ih =>
    rw [List.foldl_cons, ih, get?_insert, List.reverse_cons, List.lookup_append, Option.or_assoc]
    obtain ⟨name, value⟩ := p
    by_cases h : k = name
    · cases rest.reverse.lookup name <;> simp [h]
    · simp [lookup_cons_eq_ite, h]

/-- The table of a list answers with the last pair of a name. -/
@[simp] theorem get?_ofList (pairs : List (String × α)) (k : String) :
    (ofList pairs).get? k = pairs.reverse.lookup k := by
  rw [ofList, get?_foldl_insert, get?_empty, Option.or_none]

/-- The names of the table of a list are those of its pairs. -/
theorem mem_names_ofList {pairs : List (String × α)} {k : String} :
    k ∈ (ofList pairs).names ↔ ∃ value, (k, value) ∈ pairs := by
  rw [mem_names_iff, ← Option.isSome_iff_exists, get?_ofList, List.lookup_isSome_iff]
  simp

/-- The values of the table of a list are values of its pairs. -/
theorem mem_of_mem_values_ofList {pairs : List (String × α)} {value : α}
    (h : value ∈ (ofList pairs).values) : ∃ k, (k, value) ∈ pairs := by
  obtain ⟨k, hk⟩ := mem_values_iff.1 h
  rw [get?_ofList] at hk
  exact ⟨k, List.mem_reverse.1 (mem_of_lookup_eq_some hk)⟩

/-- A pair of a name that no other pair has may be put in last, wherever it stands. -/
theorem ofList_append_cons {l₁ l₂ : List (String × α)} {name : String} {value : α}
    (h : name ∉ (ofList (l₁ ++ l₂)).names) :
    ofList (l₁ ++ (name, value) :: l₂) = (ofList (l₁ ++ l₂)).insert name value := by
  have hnot : (ofList (l₁ ++ l₂)).get? name = none := get?_eq_none_iff.2 h
  apply eq_of_get?_eq
  intro k
  simp only [get?_ofList, get?_insert, List.reverse_append, List.reverse_cons, List.append_assoc,
    List.lookup_append] at hnot ⊢
  by_cases hk : k = name
  · subst hk
    rw [Option.or_eq_none_iff] at hnot
    simp [hnot.1]
  · simp [lookup_cons_eq_ite, hk]

/-- Where no name stands twice, the table of a list has the pairs of the list. -/
theorem entries_ofList_perm {pairs : List (String × α)} (h : (pairs.map (·.1)).Nodup) :
    (ofList pairs).entries.Perm pairs := by
  have hrev : (pairs.reverse.map (·.1)).Nodup := by
    rw [List.map_reverse, List.nodup_reverse]
    exact h
  rw [List.perm_ext_iff_of_nodup (List.Nodup.of_map _ (ofList pairs).ascending.nodup_names)
    (List.Nodup.of_map _ h)]
  rintro ⟨k, value⟩
  rw [← get?_eq_some_iff, get?_ofList, lookup_eq_some_iff_mem hrev, List.mem_reverse]

/-- A list with the entries of a table, in any order, makes that table. -/
theorem ofList_eq_of_perm {pairs : List (String × α)} {t : Table α} (h : pairs.Perm t.entries) :
    ofList pairs = t := by
  have hnodup : (pairs.map (·.1)).Nodup := (h.map _).nodup_iff.2 t.ascending.nodup_names
  apply eq_of_get?_eq
  intro k
  apply Option.ext
  intro value
  rw [get?_eq_some_iff, get?_eq_some_iff, (entries_ofList_perm hnodup).mem_iff, h.mem_iff]

/-- In ascending pairs no name stands twice, so the table of the list has exactly those entries. -/
theorem entries_ofList {pairs : List (String × α)} (h : Ascending pairs) :
    (ofList pairs).entries = pairs :=
  congrArg entries (ofList_eq_of_perm (t := ⟨pairs, h⟩) (.refl pairs))

/-! ## Tables from tables -/

/-- A traversal fails as it does at the smallest name at which it does. -/
theorem failureOf_traverse (f : String → α → Except ε β) (t : Table α) :
    failureOf (t.traverse f) = t.entries.findSome? fun e => failureOf (f e.1 e.2) := by
  simp only [traverse, failureOf_map, failureOf_mapM]

/-- Steps that agree on the values of a table make the same traversal of it. -/
theorem traverse_congr {f g : String → α → Except ε β} {t : Table α}
    (h : ∀ name, ∀ a ∈ t.values, f name a = g name a) : t.traverse f = t.traverse g := by
  rw [traverse, traverse, mapM_congr]
  intro e he
  rw [h e.1 e.2 (List.mem_map_of_mem he)]

/-- To change the values before a traversal is to traverse with steps that change them first. -/
theorem traverse_mapWithName {γ : Type} (g : String → α → γ) (f : String → γ → Except ε β)
    (t : Table α) : (t.mapWithName g).traverse f = t.traverse fun name a => f name (g name a) := by
  rw [traverse, traverse, entries_mapWithName, List.mapM_map]
  rfl

/-- What a traversal makes of one entry: the name stays. -/
theorem map_mk_eq_ok_iff {x : Except ε β} {name : String} {e : String × β} :
    x.map (Prod.mk name ·) = .ok e ↔ e.1 = name ∧ x = .ok e.2 := by
  obtain ⟨k, b⟩ := e
  cases x <;> simp [Except.map, eq_comm]

/-- Entries made one after the other have the names of the old ones, in their order. -/
theorem names_of_mapM_entries {f : String → α → Except ε β} {l : List (String × α)}
    {l' : List (String × β)}
    (h : l.mapM (fun e => (f e.1 e.2).map (Prod.mk e.1 ·)) = .ok l') :
    l'.map (·.1) = l.map (·.1) := by
  have hall := mapM_eq_ok_iff.1 h
  clear h
  induction hall with
  | nil => rfl
  | cons hhead _ ih =>
    rw [List.map_cons, List.map_cons, ih, (map_mk_eq_ok_iff.1 hhead).1]

/-- A traversal succeeds exactly with the table of the entries made one after the other: they
ascend as the old ones do, so that none replaces another. -/
theorem traverse_eq_ok_iff {f : String → α → Except ε β} {t : Table α} {t' : Table β} :
    t.traverse f = .ok t' ↔
      t.entries.mapM (fun e => (f e.1 e.2).map (Prod.mk e.1 ·)) = .ok t'.entries := by
  rw [traverse]
  cases h : t.entries.mapM fun e => (f e.1 e.2).map (Prod.mk e.1 ·) with
  | error failure => simp [Except.map]
  | ok pairs =>
    have hasc : Ascending pairs :=
      List.pairwise_map.1 (names_of_mapM_entries h ▸ t.pairwise_names)
    simp only [Except.map, Except.ok.injEq]
    constructor
    · rintro rfl
      exact (entries_ofList hasc).symm
    · rintro rfl
      exact Table.ext (entries_ofList hasc)

theorem names_of_traverse {f : String → α → Except ε β} {t : Table α} {t' : Table β}
    (h : t.traverse f = .ok t') : t'.names = t.names :=
  names_of_mapM_entries (traverse_eq_ok_iff.1 h)

/-- What stands under a name after a traversal. -/
theorem get?_of_traverse {f : String → α → Except ε β} {t : Table α} {t' : Table β}
    (h : t.traverse f = .ok t') {k : String} {b : β} :
    t'.get? k = some b ↔ ∃ a, t.get? k = some a ∧ f k a = .ok b := by
  simp only [get?_eq_some_iff, mem_iff_of_mapM (traverse_eq_ok_iff.1 h), map_mk_eq_ok_iff]
  constructor
  · rintro ⟨⟨name, a⟩, hmem, rfl, hf⟩
    exact ⟨a, hmem, hf⟩
  · rintro ⟨a, hmem, hf⟩
    exact ⟨(k, a), hmem, rfl, hf⟩

/-- Two tables with the same names, in which the values under each name are related. -/
structure Pointwise (R : String → α → β → Prop) (t : Table α) (t' : Table β) : Prop where
  names_eq : t'.names = t.names
  related : ∀ k a, t.get? k = some a → ∃ b, R k a b ∧ t'.get? k = some b

/-- What stands in the second table is related to a value of the first. -/
theorem Pointwise.exists_of_get? {R : String → α → β → Prop} {t : Table α} {t' : Table β}
    (h : Pointwise R t t') {k : String} {b : β} (hb : t'.get? k = some b) :
    ∃ a, t.get? k = some a ∧ R k a b := by
  obtain ⟨a, ha⟩ := mem_names_iff.1 (h.names_eq ▸ mem_names_iff.2 ⟨b, hb⟩)
  obtain ⟨b', hR, hb'⟩ := h.related k a ha
  rw [hb, Option.some.injEq] at hb'
  exact ⟨a, ha, hb' ▸ hR⟩

/-- A traversal gives exactly the table with the same names and, under each, the value made of the
old one. -/
theorem traverse_eq_ok_iff_pointwise {f : String → α → Except ε β} {t : Table α} {t' : Table β} :
    t.traverse f = .ok t' ↔ Pointwise (fun k a b => f k a = .ok b) t t' := by
  constructor
  · intro h
    refine ⟨names_of_traverse h, fun k a ha => ?_⟩
    obtain ⟨b, hb⟩ := mem_names_iff.1 (names_of_traverse h ▸ mem_names_iff.2 ⟨a, ha⟩)
    obtain ⟨a', ha', hf⟩ := (get?_of_traverse h).1 hb
    rw [ha, Option.some.injEq] at ha'
    exact ⟨b, ha' ▸ hf, hb⟩
  · intro hall
    have hnone : failureOf (t.traverse f) = none := by
      rw [failureOf_traverse, List.findSome?_eq_none_iff]
      rintro ⟨k, a⟩ hmem
      obtain ⟨b, hf, _⟩ := hall.related k a (get?_eq_some_iff.2 hmem)
      rw [hf, failureOf_ok]
    obtain ⟨t'', h⟩ := failureOf_eq_none_iff.1 hnone
    have heq : t'' = t' := by
      apply eq_of_get?_eq
      intro k
      apply Option.ext
      intro b
      rw [get?_of_traverse h]
      constructor
      · rintro ⟨a, ha, hf⟩
        obtain ⟨b', hf', hb'⟩ := hall.related k a ha
        rw [hf, Except.ok.injEq] at hf'
        rw [hb', hf']
      · exact hall.exists_of_get?
    rw [h, heq]

/-! ## Values that choose new names -/

/-- The entry with the greatest name, byte by byte, among those whose value meets a condition. -/
structure IsLast (t : Table α) (p : α → Prop) (name : String) (value : α) : Prop where
  get?_eq : t.get? name = some value
  holds : p value
  le : ∀ k v, t.get? k = some v → p v → bytes k ≤ bytes name

theorem lookup_eq_none_iff_of_mapM {f : α → Except ε (String × β)} {l : List (String × α)}
    {pairs : List (String × β)} (h : l.mapM (fun e => f e.2) = .ok pairs) {k : String} :
    pairs.reverse.lookup k = none ↔ ∀ e ∈ l, ∀ b, f e.2 ≠ .ok (k, b) := by
  simp only [List.lookup_eq_none_iff, List.mem_reverse, mem_iff_of_mapM h, bne_iff_ne]
  constructor
  · intro hne e he b hf
    exact hne (k, b) ⟨e, he, hf⟩ rfl
  · rintro hne ⟨name, b⟩ ⟨e, he, hf⟩ rfl
    exact hne e he b hf

/-- Of the pairs made of ascending entries, the one that a name finds from behind is made of the
last entry that makes a pair of that name. -/
theorem lookup_reverse_iff_of_mapM {f : α → Except ε (String × β)} {l : List (String × α)}
    {pairs : List (String × β)} (h : l.mapM (fun e => f e.2) = .ok pairs) (hl : Ascending l)
    {k : String} {b : β} :
    pairs.reverse.lookup k = some b ↔
      ∃ e ∈ l, f e.2 = .ok (k, b) ∧ ∀ e' ∈ l, ∀ b', f e'.2 = .ok (k, b') → e'.1 ≤ e.1 := by
  induction l generalizing pairs with
  | nil =>
    cases h
    simp
  | cons e rest ih =>
    obtain ⟨⟨name, b₀⟩, pairs, hhead, hrest, rfl⟩ := mapM_cons_eq_ok_iff.1 h
    have hlater : ∀ e' ∈ rest, e.1 < e'.1 := fun e' he' => List.rel_of_pairwise_cons hl he'
    rw [List.reverse_cons, List.lookup_append, Option.or_eq_some_iff,
      ih hrest (List.Pairwise.of_cons hl), lookup_eq_none_iff_of_mapM hrest, lookup_cons_eq_ite]
    constructor
    · rintro (⟨e', he', hf, hle⟩ | ⟨hnone, hself⟩)
      · refine ⟨e', List.mem_cons_of_mem e he', hf, ?_⟩
        intro e'' he'' b' hf''
        rcases List.mem_cons.1 he'' with rfl | he''
        · exact Std.le_of_lt (hlater e' he')
        · exact hle e'' he'' b' hf''
      · obtain ⟨rfl, rfl⟩ : k = name ∧ b₀ = b := by simpa using hself
        refine ⟨e, List.mem_cons_self, hhead, ?_⟩
        intro e'' he'' b' hf''
        rcases List.mem_cons.1 he'' with rfl | he''
        · exact Std.le_refl _
        · exact absurd hf'' (hnone e'' he'' b')
    · rintro ⟨e', he', hf, hle⟩
      rcases List.mem_cons.1 he' with rfl | he'
      · obtain ⟨rfl, rfl⟩ : name = k ∧ b₀ = b := by simpa [hhead] using hf
        refine Or.inr ⟨fun e'' he'' b' hf'' => ?_, by simp⟩
        exact String.not_lt.2 (hle e'' (List.mem_cons_of_mem _ he'') b' hf'') (hlater e'' he'')
      · exact Or.inl ⟨e', he', hf, fun e'' he'' => hle e'' (List.mem_cons_of_mem e he'')⟩

section

/-! A step gives a name and a value; `N` says which names it gives, and `E` which values. -/

variable {f : α → Except ε (String × β)} {N : α → String → Prop} {E : α → β → Prop}
  (hf : ∀ {a k b}, f a = .ok (k, b) ↔ N a k ∧ E a b) {t : Table α} {pairs : List (String × β)}
  (h : t.values.mapM f = .ok pairs)
include hf h

/-- As all steps succeed, each gives a pair of every name that `N` allows. -/
theorem exists_pair_iff_of_mapM {a : α} (ha : a ∈ t.values) {k : String} :
    (∃ b, f a = .ok (k, b)) ↔ N a k := by
  constructor
  · rintro ⟨b, hb⟩
    exact (hf.1 hb).1
  · intro hk
    obtain ⟨⟨k', b⟩, hb⟩ := exists_of_mapM h ha
    exact ⟨b, hf.2 ⟨hk, (hf.1 hb).2⟩⟩

/-- A table made of the values of another table has the names that these choose. -/
theorem mem_names_ofList_of_mapM {k : String} :
    k ∈ (ofList pairs).names ↔ ∃ a ∈ t.values, N a k := by
  simp only [mem_names_ofList, mem_iff_of_mapM h]
  constructor
  · rintro ⟨b, a, ha, hb⟩
    exact ⟨a, ha, (exists_pair_iff_of_mapM hf h ha).1 ⟨b, hb⟩⟩
  · rintro ⟨a, ha, hk⟩
    obtain ⟨b, hb⟩ := (exists_pair_iff_of_mapM hf h ha).2 hk
    exact ⟨b, a, ha, hb⟩

/-- Under a name it has what the last value that chose it became. -/
theorem get?_ofList_of_mapM {k : String} {b : β} :
    (ofList pairs).get? k = some b ↔ ∃ name a, t.IsLast (N · k) name a ∧ E a b := by
  have hentries : t.entries.mapM (fun e => f e.2) = .ok pairs := by
    rw [← h, values, List.mapM_map]
    rfl
  rw [get?_ofList, lookup_reverse_iff_of_mapM hentries t.ascending]
  constructor
  · rintro ⟨⟨name, a⟩, hmem, hb, hle⟩
    refine ⟨name, a, ⟨get?_eq_some_iff.2 hmem, (hf.1 hb).1, fun k' v hv hk => ?_⟩, (hf.1 hb).2⟩
    obtain ⟨b', hb'⟩ := (exists_pair_iff_of_mapM hf h (mem_values_iff.2 ⟨k', hv⟩)).2 hk
    exact le_iff_bytes_le.1 (hle (k', v) (get?_eq_some_iff.1 hv) b' hb')
  · rintro ⟨name, a, hlast, hb⟩
    refine ⟨(name, a), get?_eq_some_iff.1 hlast.get?_eq, hf.2 ⟨hlast.holds, hb⟩, ?_⟩
    rintro ⟨k', v⟩ hv b' hb'
    exact le_iff_bytes_le.2 (hlast.le k' v (get?_eq_some_iff.2 hv) (hf.1 hb').1)

end

/-- One more value, of which a pair with a new name is made, adds this pair and nothing else. -/
theorem exists_mapM_values_insert {f : α → Except ε (String × β)} {t : Table α}
    {pairs : List (String × β)} (h : t.values.mapM f = .ok pairs) {k name : String} {a : α} {b : β}
    (hk : t.get? k = none) (ha : f a = .ok (name, b)) (hname : name ∉ (ofList pairs).names) :
    ∃ pairs', (t.insert k a).values.mapM f = .ok pairs' ∧
      ofList pairs' = (ofList pairs).insert name b := by
  obtain ⟨l₁, l₂, hvalues, hinsert⟩ := exists_values_insert a hk
  rw [hvalues, mapM_append_eq_ok_iff] at h
  obtain ⟨pairs₁, pairs₂, h₁, h₂, rfl⟩ := h
  refine ⟨pairs₁ ++ (name, b) :: pairs₂, ?_, ofList_append_cons hname⟩
  rw [hinsert, mapM_append_eq_ok_iff]
  exact ⟨pairs₁, _, h₁, mapM_cons_eq_ok_iff.2 ⟨_, _, ha, h₂, rfl⟩, rfl⟩

/-! ## Tables side by side -/

/-- Two pairs of one name whose values are related. -/
def Paired (R : α → β → Prop) (p : String × α) (q : String × β) : Prop :=
  p.1 = q.1 ∧ R p.2 q.2

variable {R : α → β → Prop}

theorem forall₂_insertEntry {l : List (String × α)} {l' : List (String × β)}
    (h : List.Forall₂ (Paired R) l l') {name : String} {a : α} {b : β} (hab : R a b) :
    List.Forall₂ (Paired R) (insertEntry name a l) (insertEntry name b l') := by
  induction h with
  | nil => exact .cons ⟨rfl, hab⟩ .nil
  | @cons p q l l' hpair hrest ih =>
    obtain ⟨k, old⟩ := p
    obtain ⟨k', old'⟩ := q
    obtain ⟨rfl, hold⟩ : k = k' ∧ R old old' := hpair
    simp only [insertEntry]
    split
    · exact .cons ⟨rfl, hab⟩ (.cons ⟨rfl, hold⟩ hrest)
    · split
      · exact .cons ⟨rfl, hab⟩ hrest
      · exact .cons ⟨rfl, hold⟩ ih

/-- Pairs that are related one by one make tables whose entries are. -/
theorem forall₂_ofList {pairs : List (String × α)} {pairs' : List (String × β)}
    (h : List.Forall₂ (Paired R) pairs pairs') :
    List.Forall₂ (Paired R) (ofList pairs).entries (ofList pairs').entries := by
  have hfoldl (t : Table α) (t' : Table β) (ht : List.Forall₂ (Paired R) t.entries t'.entries) :
      List.Forall₂ (Paired R) (pairs.foldl (fun t p => t.insert p.1 p.2) t).entries
        (pairs'.foldl (fun t p => t.insert p.1 p.2) t').entries := by
    induction h generalizing t t' with
    | nil => exact ht
    | @cons p q _ _ hpair _ ih =>
      refine ih _ _ ?_
      rw [entries_insert, entries_insert, ← hpair.1]
      exact forall₂_insertEntry ht hpair.2
  exact hfoldl empty empty .nil

/-- Tables whose entries are related one by one have the same names with related values. -/
theorem pointwise_of_forall₂ {t : Table α} {t' : Table β}
    (h : List.Forall₂ (Paired R) t.entries t'.entries) : Pointwise (fun _ => R) t t' := by
  constructor
  case names_eq =>
    rw [names, names]
    generalize t.entries = l at h
    generalize t'.entries = l' at h
    induction h with
    | nil => rfl
    | cons hpair _ ih => rw [List.map_cons, List.map_cons, ih, hpair.1]
  case related =>
    intro k a ha
    rw [get?] at ha ⊢
    generalize t.entries = l at h ha
    generalize t'.entries = l' at h
    induction h with
    | nil => cases ha
    | @cons p q _ _ hpair _ ih =>
      obtain ⟨name, value⟩ := p
      obtain ⟨name', value'⟩ := q
      obtain ⟨rfl, hvalue⟩ : name = name' ∧ R value value' := hpair
      rw [lookup_cons_eq_ite] at ha ⊢
      by_cases hk : k = name
      · rw [if_pos hk, Option.some.injEq] at ha
        subst ha
        exact ⟨value', hvalue, if_pos hk⟩
      · rw [if_neg hk] at ha ⊢
        exact ih ha

end Table

end ConstructSchema
