import Mathlib.Data.List.Forall2

/-!
Outcomes of steps that may fail, read as their first failure.

`failureOf` forgets what a step gives and keeps why it failed. A chain of steps fails as its first
failing step does (`failureOf_bind`, `failureOf_mapM`), and a walk over a list succeeds exactly
when each of its steps does (`mapM_eq_ok_iff`).
-/

namespace ConstructSchema

variable {ε α β : Type}

/-- Why a step failed, if it did. -/
def failureOf : Except ε α → Option ε
  | .ok _ => none
  | .error failure => some failure

@[simp] theorem failureOf_ok (a : α) : failureOf (.ok a : Except ε α) = none := rfl

@[simp] theorem failureOf_error (failure : ε) :
    failureOf (.error failure : Except ε α) = some failure := rfl

/-- No failure means that there is a value. -/
theorem failureOf_eq_none_iff {x : Except ε α} : failureOf x = none ↔ ∃ a, x = .ok a := by
  cases x <;> simp

theorem failureOf_eq_some_iff {x : Except ε α} {failure : ε} :
    failureOf x = some failure ↔ x = .error failure := by
  cases x <;> simp

@[simp] theorem failureOf_map (f : α → β) (x : Except ε α) :
    failureOf (x.map f) = failureOf x := by
  cases x <;> rfl

theorem map_eq_ok_iff {f : α → β} {x : Except ε α} {b : β} :
    x.map f = .ok b ↔ ∃ a, x = .ok a ∧ f a = b := by
  cases x <;> simp [Except.map]

theorem bind_eq_ok_iff {f : α → Except ε β} {x : Except ε α} {b : β} :
    x >>= f = .ok b ↔ ∃ a, x = .ok a ∧ f a = .ok b := by
  cases x <;> simp [bind, Except.bind]

@[simp] theorem ok_bind (a : α) (f : α → Except ε β) : (Except.ok a >>= f) = f a := rfl

theorem pure_eq_ok_iff {a b : α} : (pure a : Except ε α) = .ok b ↔ a = b := by
  simp [pure, Except.pure]

/-- Two steps fail as the first does, and else as the second does on what the first gave. -/
theorem failureOf_bind (x : Except ε α) (f : α → Except ε β) :
    failureOf (x >>= f) =
      match x with
      | .ok a => failureOf (f a)
      | .error failure => some failure := by
  cases x <;> rfl

/-- A step whose value is only rearranged afterwards fails as it does. -/
@[simp] theorem failureOf_bind_pure (x : Except ε α) (f : α → β) :
    failureOf (x >>= fun a => pure (f a)) = failureOf x := by
  cases x <;> rfl

/-! ## Walks over a list -/

/-- The first answer over lists put one behind the other is that of the first list with one. -/
theorem findSome?_flatMap {γ : Type} (f : β → Option γ) (g : α → List β) (l : List α) :
    (l.flatMap g).findSome? f = l.findSome? fun a => (g a).findSome? f := by
  induction l with
  | nil => rfl
  | cons a rest ih =>
    rw [List.flatMap_cons, List.findSome?_append, ih, List.findSome?_cons]
    cases (g a).findSome? f <;> rfl

/-- A walk over a list fails as its first failing step does. -/
theorem failureOf_mapM (f : α → Except ε β) (l : List α) :
    failureOf (l.mapM f) = l.findSome? fun a => failureOf (f a) := by
  induction l with
  | nil => rfl
  | cons a rest ih =>
    rw [List.mapM_cons, failureOf_bind, List.findSome?_cons]
    cases h : f a with
    | error failure => rfl
    | ok b => simp only [failureOf_bind_pure, failureOf_ok, ih]

/-- One step of a walk: it gives the first value and the walk goes on. -/
theorem mapM_cons_eq_ok_iff {f : α → Except ε β} {a : α} {l : List α} {l' : List β} :
    (a :: l).mapM f = .ok l' ↔ ∃ b bs, f a = .ok b ∧ l.mapM f = .ok bs ∧ l' = b :: bs := by
  rw [List.mapM_cons]
  cases h : f a with
  | error failure => simp [bind, Except.bind]
  | ok b =>
    cases ht : l.mapM f with
    | error failure => simp [bind, Except.bind]
    | ok bs => simp [bind, Except.bind, pure, Except.pure, eq_comm]

/-- A walk over a list succeeds exactly when each step gives the value at its place. -/
theorem mapM_eq_ok_iff {f : α → Except ε β} {l : List α} {l' : List β} :
    l.mapM f = .ok l' ↔ List.Forall₂ (fun a b => f a = .ok b) l l' := by
  induction l generalizing l' with
  | nil => simp [pure, Except.pure, eq_comm]
  | cons a rest ih =>
    rw [mapM_cons_eq_ok_iff, List.forall₂_cons_left_iff]
    simp only [ih]

/-- Steps that agree on the items of a list make the same walk over it. -/
theorem mapM_congr {f g : α → Except ε β} {l : List α} (h : ∀ a ∈ l, f a = g a) :
    l.mapM f = l.mapM g := by
  induction l with
  | nil => rfl
  | cons a rest ih =>
    rw [List.mapM_cons, List.mapM_cons, h a List.mem_cons_self,
      ih fun b hb => h b (List.mem_cons_of_mem a hb)]

/-- A walk over two lists, one behind the other, is a walk over each. -/
theorem mapM_append_eq_ok_iff {f : α → Except ε β} {l₁ l₂ : List α} {l' : List β} :
    (l₁ ++ l₂).mapM f = .ok l' ↔
      ∃ l₁' l₂', l₁.mapM f = .ok l₁' ∧ l₂.mapM f = .ok l₂' ∧ l' = l₁' ++ l₂' := by
  rw [List.mapM_append]
  simp only [bind_eq_ok_iff, pure_eq_ok_iff]
  constructor
  · rintro ⟨l₁', h₁, l₂', h₂, rfl⟩
    exact ⟨l₁', l₂', h₁, h₂, rfl⟩
  · rintro ⟨l₁', l₂', h₁, h₂, rfl⟩
    exact ⟨l₁', h₁, l₂', h₂, rfl⟩

/-- A walk over the same items in another order gives the same values in another order. -/
theorem exists_mapM_perm {f : α → Except ε β} {l₁ l₂ : List α} (h : l₁.Perm l₂) {m₁ : List β}
    (hm : l₁.mapM f = .ok m₁) : ∃ m₂, l₂.mapM f = .ok m₂ ∧ m₁.Perm m₂ := by
  induction h generalizing m₁ with
  | nil => exact ⟨m₁, hm, .refl m₁⟩
  | cons a _ ih =>
    obtain ⟨b, bs, hb, hbs, rfl⟩ := mapM_cons_eq_ok_iff.1 hm
    obtain ⟨bs', hbs', hperm⟩ := ih hbs
    exact ⟨b :: bs', mapM_cons_eq_ok_iff.2 ⟨b, bs', hb, hbs', rfl⟩, hperm.cons b⟩
  | swap a a' _ =>
    obtain ⟨b', m, hb', hm', rfl⟩ := mapM_cons_eq_ok_iff.1 hm
    obtain ⟨b, bs, hb, hbs, rfl⟩ := mapM_cons_eq_ok_iff.1 hm'
    refine ⟨b :: b' :: bs, mapM_cons_eq_ok_iff.2 ⟨b, b' :: bs, hb, ?_, rfl⟩, .swap b b' bs⟩
    exact mapM_cons_eq_ok_iff.2 ⟨b', bs, hb', hbs, rfl⟩
  | trans _ _ ih₁ ih₂ =>
    obtain ⟨m₂, hm₂, hperm₁⟩ := ih₁ hm
    obtain ⟨m₃, hm₃, hperm₂⟩ := ih₂ hm₂
    exact ⟨m₃, hm₃, hperm₁.trans hperm₂⟩

/-- Steps that undo another function give the list back. -/
theorem mapM_map_eq_ok {f : β → Except ε α} {g : α → β} {l : List α}
    (h : ∀ a ∈ l, f (g a) = .ok a) : (l.map g).mapM f = .ok l := by
  induction l with
  | nil => rfl
  | cons a rest ih =>
    rw [List.map_cons, mapM_cons_eq_ok_iff]
    exact ⟨a, rest, h a List.mem_cons_self, ih fun b hb => h b (List.mem_cons_of_mem a hb), rfl⟩

/-- Each step of a walk that succeeds gives a value. -/
theorem exists_of_mapM {f : α → Except ε β} {l : List α} {l' : List β} (h : l.mapM f = .ok l')
    {a : α} (ha : a ∈ l) : ∃ b, f a = .ok b := by
  have hnone := failureOf_eq_none_iff.2 ⟨l', h⟩
  rw [failureOf_mapM, List.findSome?_eq_none_iff] at hnone
  exact failureOf_eq_none_iff.1 (hnone a ha)

/-- What a walk gives are the values of its steps. -/
theorem mem_iff_of_mapM {f : α → Except ε β} {l : List α} {l' : List β} (h : l.mapM f = .ok l')
    {b : β} : b ∈ l' ↔ ∃ a ∈ l, f a = .ok b := by
  induction l generalizing l' with
  | nil =>
    cases h
    simp
  | cons a rest ih =>
    obtain ⟨b', bs, hb', hbs, rfl⟩ := mapM_cons_eq_ok_iff.1 h
    simp [ih hbs, hb', eq_comm]

/-- What a walk gives at a place is the value of the step there. -/
theorem getElem?_iff_of_mapM {f : α → Except ε β} {l : List α} {l' : List β}
    (h : l.mapM f = .ok l') {i : Nat} {b : β} :
    l'[i]? = some b ↔ ∃ a, l[i]? = some a ∧ f a = .ok b := by
  induction l generalizing l' i with
  | nil =>
    cases h
    simp
  | cons a rest ih =>
    obtain ⟨first, others, hfirst, hothers, rfl⟩ := mapM_cons_eq_ok_iff.1 h
    cases i with
    | zero => simp [hfirst]
    | succ i => simpa using ih hothers

/-- With another item at one place a walk has the outcome of the step there, and gives what it gave
before at all others. -/
theorem mapM_modify {f : α → Except ε β} {l : List α} {l' : List β} (h : l.mapM f = .ok l')
    {i : Nat} {a : α} (ha : l[i]? = some a) (g : α → α) :
    (l.modify i g).mapM f = (f (g a)).map (l'.set i ·) := by
  induction l generalizing l' i with
  | nil => cases ha
  | cons first rest ih =>
    obtain ⟨b, bs, hb, hbs, rfl⟩ := mapM_cons_eq_ok_iff.1 h
    cases i with
    | zero =>
      obtain rfl : first = a := by simpa using ha
      rw [List.modify_zero_cons, List.mapM_cons, hbs]
      cases f (g first) <;> rfl
    | succ i =>
      rw [List.modify_succ_cons, List.mapM_cons, hb, ih hbs ha]
      cases f (g a) <;> rfl

/-! ## Two steps side by side -/

/-- Two steps that fail alike, or give values that are related. -/
inductive EndAlike (R : α → β → Prop) : Except ε α → Except ε β → Prop
  | error (failure : ε) : EndAlike R (.error failure) (.error failure)
  | ok {a : α} {b : β} : R a b → EndAlike R (.ok a) (.ok b)

namespace EndAlike

variable {α' β' : Type} {R : α → β → Prop} {S : α' → β' → Prop}

/-- After steps that end alike, steps that end alike on related values do so together. -/
theorem bind {x : Except ε α} {y : Except ε β} {f : α → Except ε α'} {g : β → Except ε β'}
    (h : EndAlike R x y) (hstep : ∀ a b, R a b → EndAlike S (f a) (g b)) :
    EndAlike S (x >>= f) (y >>= g) := by
  cases h with
  | error failure => exact .error failure
  | ok hR => exact hstep _ _ hR

/-- After one step, steps that end alike on whatever it gives. -/
theorem after (x : Except ε α) {f : α → Except ε α'} {g : α → Except ε β'}
    (hstep : ∀ a, EndAlike S (f a) (g a)) : EndAlike S (x >>= f) (x >>= g) := by
  cases x with
  | error failure => exact .error failure
  | ok a => exact hstep a

/-- Walks over one list whose steps end alike. -/
theorem mapM {f : α → Except ε α'} {g : α → Except ε β'} {l : List α}
    (h : ∀ a ∈ l, EndAlike S (f a) (g a)) :
    EndAlike (List.Forall₂ S) (l.mapM f) (l.mapM g) := by
  induction l with
  | nil => exact .ok .nil
  | cons a rest ih =>
    rw [List.mapM_cons, List.mapM_cons]
    refine (h a List.mem_cons_self).bind fun b b' hb => ?_
    refine (ih fun a' ha' => h a' (List.mem_cons_of_mem a ha')).bind fun bs bs' hbs => ?_
    exact .ok (.cons hb hbs)

end EndAlike

end ConstructSchema
