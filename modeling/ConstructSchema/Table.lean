/-!
Tables from names to values, in ascending order of the names.

A name stands at most once, and the order is that of the code points of the names, which is also
the order of their bytes in UTF-8. `insert` replaces the value of a name that is already there, so
of two values given for one name the last stays.
-/

namespace ConstructSchema

/-- The entries with `value` under `name`, in place of an older value. -/
def insertEntry {α : Type} (name : String) (value : α) : List (String × α) → List (String × α)
  | [] => [(name, value)]
  | (other, old) :: rest =>
    if name < other then (name, value) :: (other, old) :: rest
    else if name = other then (name, value) :: rest
    else (other, old) :: insertEntry name value rest

/-- Each name is smaller than all that follow. -/
def Ascending {α : Type} (entries : List (String × α)) : Prop :=
  entries.Pairwise fun a b => a.1 < b.1

/-- An entry after an insertion is the new one or was there before. -/
theorem mem_insertEntry {α : Type} {name : String} {value : α} {e : String × α}
    {entries : List (String × α)} (h : e ∈ insertEntry name value entries) :
    e = (name, value) ∨ e ∈ entries := by
  induction entries with
  | nil => simpa [insertEntry] using h
  | cons first rest ih =>
    obtain ⟨other, old⟩ := first
    simp only [insertEntry] at h
    split at h
    · simpa using h
    · split at h
      · simp only [List.mem_cons] at h ⊢
        exact h.elim Or.inl fun m => Or.inr (Or.inr m)
      · simp only [List.mem_cons] at h ⊢
        rcases h with h | h
        · exact Or.inr (Or.inl h)
        · exact (ih h).elim Or.inl fun m => Or.inr (Or.inr m)

/-- Insertion keeps the names ascending. -/
theorem Ascending.insertEntry {α : Type} (name : String) (value : α)
    {entries : List (String × α)} (h : Ascending entries) :
    Ascending (insertEntry name value entries) := by
  induction entries with
  | nil => simp [Ascending, ConstructSchema.insertEntry]
  | cons first rest ih =>
    obtain ⟨other, old⟩ := first
    have hrest : Ascending rest := List.Pairwise.of_cons h
    have hall : ∀ e ∈ rest, other < e.1 := fun e he => List.rel_of_pairwise_cons h he
    simp only [ConstructSchema.insertEntry]
    split
    next hlt =>
      refine List.Pairwise.cons ?_ h
      intro e he
      rcases List.mem_cons.1 he with rfl | he
      · exact hlt
      · exact String.lt_trans hlt (hall e he)
    next hlt =>
      split
      next heq =>
        subst heq
        exact List.Pairwise.cons hall hrest
      next hne =>
        refine List.Pairwise.cons ?_ (ih hrest)
        intro e he
        rcases mem_insertEntry he with rfl | he
        · have hle : other ≤ name := String.not_lt.1 hlt
          exact Std.lt_of_le_of_ne hle (Ne.symm hne)
        · exact hall e he

/-- A finite map from names to values. -/
structure Table (α : Type) where
  /-- The entries, from the smallest name to the greatest. -/
  entries : List (String × α)
  ascending : Ascending entries

namespace Table

variable {α β : Type}

/-- The table without entries. -/
def empty : Table α where
  entries := []
  ascending := List.Pairwise.nil

instance : Inhabited (Table α) := ⟨empty⟩

/-- The table with `value` under `name`. -/
def insert (t : Table α) (name : String) (value : α) : Table α where
  entries := insertEntry name value t.entries
  ascending := t.ascending.insertEntry name value

/-- The table of a list of pairs, where a later pair replaces an earlier one of the same name. -/
def ofList (pairs : List (String × α)) : Table α :=
  pairs.foldl (fun t p => t.insert p.1 p.2) empty

/-- The value under a name. -/
def get? (t : Table α) (name : String) : Option α :=
  t.entries.lookup name

/-- Whether there is a value under a name. -/
def contains (t : Table α) (name : String) : Bool :=
  (t.get? name).isSome

/-- The names, ascending. -/
def names (t : Table α) : List String :=
  t.entries.map (·.1)

/-- The values, in the order of their names. -/
def values (t : Table α) : List α :=
  t.entries.map (·.2)

/-- The number of entries. -/
def size (t : Table α) : Nat :=
  t.entries.length

/-- The table with each value changed by a function that may look at its name. -/
def mapWithName (f : String → α → β) (t : Table α) : Table β where
  entries := t.entries.map fun e => (e.1, f e.1 e.2)
  ascending := by simpa [Ascending, List.pairwise_map] using t.ascending

/-- The table with each value changed by a function that may fail; the failure at the smallest name
wins. -/
def traverse {ε : Type} (f : String → α → Except ε β) (t : Table α) : Except ε (Table β) :=
  (t.entries.mapM fun e => (f e.1 e.2).map (Prod.mk e.1 ·)).map ofList

/-- Two tables with the same entries are equal. -/
@[ext] theorem ext {s t : Table α} (h : s.entries = t.entries) : s = t := by
  cases s; cases t; cases h; rfl

@[simp] theorem entries_empty : (empty : Table α).entries = [] := rfl

@[simp] theorem entries_insert (t : Table α) (name : String) (value : α) :
    (t.insert name value).entries = insertEntry name value t.entries := rfl

@[simp] theorem entries_mapWithName (f : String → α → β) (t : Table α) :
    (t.mapWithName f).entries = t.entries.map fun e => (e.1, f e.1 e.2) := rfl

instance [DecidableEq α] : DecidableEq (Table α) := fun s t =>
  decidable_of_iff (s.entries = t.entries) ⟨ext, fun h => h ▸ rfl⟩

end Table

end ConstructSchema
