import ConstructSchema.Proofs.Naming.Boundaries
import ConstructSchema.Proofs.Text.Lowercase

/-!
Package names are in lower case, and hold the letters of the name.

Underscores are put in before the name is lowered, and an underscore hides what stands on its other
side from a sigma. It never hides anything that matters: it stands between two letters of ASCII, and
the look for a cased character ends at the letter already (`lowerCharsAfter_separated`). So each
character becomes what it becomes without the underscores, and a package name differs from the name
in lower case by underscores only. A second time there is no capital left and so no boundary.
-/

namespace ConstructSchema.PackageName

open Text

/-! ## Letters of ASCII -/

/-- No range of a table holds a letter of ASCII. -/
theorem inRanges_eq_false {ranges : List (Nat × Nat)} {c : Char}
    (hranges : ∀ r ∈ ranges, r.2 < 0x41 ∨ 0x5a < r.1 ∧ r.2 < 0x61 ∨ 0x7a < r.1)
    (hc : isCapital c = true ∨ isSmall c = true) : inRanges ranges c = false := by
  have hcode : 0x41 ≤ c.toNat ∧ c.toNat ≤ 0x5a ∨ 0x61 ≤ c.toNat ∧ c.toNat ≤ 0x7a := by
    simpa [isCapital, isSmall, Char.le_def, UInt32.le_iff_toNat_le] using hc
  rw [inRanges, List.any_eq_false]
  intro r hr
  have := hranges r hr
  simp only [Bool.and_eq_true, decide_eq_true_eq]
  omega

theorem not_isCaseIgnorable {c : Char} (hc : isCapital c = true ∨ isSmall c = true) :
    isCaseIgnorable c = false :=
  inRanges_eq_false (by decide +kernel) hc

/-- The first run of the table covers the capitals of ASCII. -/
theorem isCapital_eq_false_of_isSettled {c : Char} (h : IsSettled c) : isCapital c = false := by
  have hrun := isSettled_iff.1 h ⟨0x41, 0x5a, 1, 0x61⟩ (.tail _ (.head _))
  simpa [isCapital, LowerRun.covers, Nat.mod_one, Char.le_def, UInt32.le_iff_toNat_le] using hrun

theorem isCapital_eq_false_of_mem_ofChars {cs : List Char} {c : Char} (h : c ∈ ofChars cs) :
    isCapital c = false :=
  isCapital_eq_false_of_isSettled (isSettled_of_mem_lowerCharsAfter h)

/-! ## Without capitals -/

theorem isBoundary_eq_false_of_not_letter {c : Char}
    (hc : ¬ (isCapital c = true ∨ isSmall c = true)) (cs : List Char) :
    isBoundary (c :: cs) = false := by
  by_contra h
  exact hc (exists_capital_of_isBoundary (Bool.of_not_eq_false h)).1

/-- Where no capital is, there is no boundary. -/
theorem separated_of_not_isCapital {cs : List Char} (h : ∀ c ∈ cs, isCapital c = false) :
    separated cs = cs := by
  unfold separated
  induction cs with
  | nil => rfl
  | cons c rest ih =>
    have hboundary : isBoundary (c :: rest) = false := by
      by_contra hboundary
      obtain ⟨-, d, behind, rfl, hd⟩ :=
        exists_capital_of_isBoundary (Bool.of_not_eq_false hboundary)
      simp [h d (by simp)] at hd
    rw [insertUnderscores_cons_of_false hboundary, ih fun d hd => h d (List.mem_cons_of_mem _ hd)]

theorem ofChars_ofChars (cs : List Char) : ofChars (ofChars cs) = ofChars cs := by
  rw [ofChars_eq_lowerChars_separated (ofChars cs),
    separated_of_not_isCapital fun _ => isCapital_eq_false_of_mem_ofChars,
    ofChars_eq_lowerChars_separated, lowerChars_lowerChars]

/-! ## What an underscore hides -/

/-- Each character lowered where it stands in the name, with an underscore behind it at a boundary.
`before` is read backwards. -/
def lowerSeparatedAfter (before : List Char) : List Char → List Char
  | [] => []
  | c :: cs =>
    lowerCharIn before c cs ++ (if isBoundary (c :: cs) then ['_'] else []) ++
      lowerSeparatedAfter (c :: before) cs

/-- The characters of a capitalized name lowered where they stand, with an underscore at each
boundary. -/
def lowerSeparated (cs : List Char) : List Char :=
  lowerSeparatedAfter [] cs

/-- Looking ahead, the underscores do not hide a cased character. -/
theorem meetsCased_separated (cs : List Char) : meetsCased (separated cs) = meetsCased cs := by
  unfold separated
  induction cs with
  | nil => rfl
  | cons c rest ih =>
    by_cases hignorable : isCaseIgnorable c = true
    · -- It is passed over, and no underscore follows it.
      have hletter : ¬ (isCapital c = true ∨ isSmall c = true) := by
        intro hletter
        simp [not_isCaseIgnorable hletter] at hignorable
      rw [insertUnderscores_cons_of_false (isBoundary_eq_false_of_not_letter hletter rest),
        meetsCased_cons_of_ignorable hignorable, meetsCased_cons_of_ignorable hignorable, ih]
    · -- The look ends at it.
      rw [Bool.not_eq_true] at hignorable
      obtain ⟨behind, hbehind⟩ : ∃ behind, insertUnderscores isBoundary (c :: rest) = c :: behind :=
        List.head?_eq_some_iff.1 (head?_insertUnderscores (c :: rest))
      rw [hbehind, meetsCased_cons_of_not_ignorable hignorable,
        meetsCased_cons_of_not_ignorable hignorable]

/-- Looking back, a capital shows the same whatever stands before it. -/
theorem meetsCased_cons_congr {c : Char} {before before' : List Char}
    (h : isCapital c = false → meetsCased before' = meetsCased before) :
    meetsCased (c :: before') = meetsCased (c :: before) := by
  by_cases hignorable : isCaseIgnorable c = true
  · have hc : isCapital c = false := by
      by_contra hc
      simp [not_isCaseIgnorable (.inl (Bool.of_not_eq_false hc))] at hignorable
    rw [meetsCased_cons_of_ignorable hignorable, meetsCased_cons_of_ignorable hignorable, h hc]
  · rw [Bool.not_eq_true] at hignorable
    rw [meetsCased_cons_of_not_ignorable hignorable, meetsCased_cons_of_not_ignorable hignorable]

/-- The underscores do not change how a character is lowered. Looking back, two texts may show
different things only in front of a capital: that is where an underscore has just been put. -/
theorem lowerCharsAfter_separated {cs before before' : List Char}
    (h : cs.head?.any isCapital = false → meetsCased before' = meetsCased before) :
    lowerCharsAfter before' (separated cs) = lowerSeparatedAfter before cs := by
  unfold separated
  induction cs generalizing before before' with
  | nil => rfl
  | cons c rest ih =>
    have hc : isCapital c = false → meetsCased before' = meetsCased before := by simpa using h
    by_cases hboundary : isBoundary (c :: rest) = true
    · obtain ⟨hletter, d, behind, rfl, hd⟩ := exists_capital_of_isBoundary hboundary
      have hsigma : c ≠ 'Σ' := by
        rintro rfl
        revert hletter
        decide
      have hhere : ∀ behind', lowerCharIn before' c behind' = lowerCharIn before c (d :: behind) :=
        fun _ => lowerCharIn_congr fun h => absurd h hsigma
      have hunderscore : ∀ before behind, lowerCharIn before '_' behind = ['_'] :=
        IsSettled.lowerCharIn_eq (by decide +kernel)
      have hrest : lowerCharsAfter ('_' :: c :: before') (separated (d :: behind)) =
          lowerSeparatedAfter (c :: before) (d :: behind) := ih (by simp [hd])
      rw [insertUnderscores_cons_of_true hboundary, lowerCharsAfter, lowerCharsAfter, hhere,
        hunderscore, lowerSeparatedAfter, if_pos hboundary, List.append_assoc, ← hrest]
      rfl
    · rw [Bool.not_eq_true] at hboundary
      have hhere : lowerCharIn before' c (separated rest) = lowerCharIn before c rest := by
        refine lowerCharIn_congr ?_
        rintro rfl
        exact ⟨hc (by decide), meetsCased_separated rest⟩
      have hrest : lowerCharsAfter (c :: before') (separated rest) =
          lowerSeparatedAfter (c :: before) rest := ih fun _ => meetsCased_cons_congr hc
      rw [insertUnderscores_cons_of_false hboundary, lowerCharsAfter, lowerSeparatedAfter,
        hboundary, ← hrest, ← hhere]
      simp [separated]

theorem ofChars_eq_lowerSeparated (cs : List Char) : ofChars cs = lowerSeparated cs := by
  rw [ofChars_eq_lowerChars_separated, lowerChars, lowerCharsAfter_separated fun _ => rfl,
    lowerSeparated]

/-! ## Underscores apart -/

/-- The characters other than underscores. -/
def withoutUnderscores (cs : List Char) : List Char :=
  cs.filter (· != '_')

theorem withoutUnderscores_lowerSeparatedAfter (before cs : List Char) :
    withoutUnderscores (lowerSeparatedAfter before cs) =
      withoutUnderscores (lowerCharsAfter before cs) := by
  unfold withoutUnderscores
  induction cs generalizing before with
  | nil => rfl
  | cons c rest ih =>
    have hnone : (if isBoundary (c :: rest) then ['_'] else []).filter (· != '_') = [] := by
      split <;> rfl
    rw [lowerSeparatedAfter, lowerCharsAfter, List.filter_append, List.filter_append, hnone, ih,
      List.append_nil, List.filter_append]

/-- **A package name is the name in lower case but for underscores.** It holds no capital of ASCII,
it is its own package name, without underscores it is the name in lower case without underscores,
and each of its characters is what the character of the name becomes where it stands there, the
sigma at the end of a word included. -/
theorem ofCapitalized_lowers (name : String) :
    (ofCapitalized name).toList.any isCapital = false ∧
    ofCapitalized (ofCapitalized name) = ofCapitalized name ∧
    withoutUnderscores (ofCapitalized name).toList = withoutUnderscores (lowercase name).toList ∧
    (ofCapitalized name).toList = lowerSeparated name.toList := by
  simp only [ofCapitalized, lowercase, String.toList_ofList]
  refine ⟨?_, ?_, ?_, ofChars_eq_lowerSeparated _⟩
  · rw [List.any_eq_false]
    intro c hc
    simp [isCapital_eq_false_of_mem_ofChars hc]
  · rw [ofChars_ofChars]
  · rw [ofChars_eq_lowerSeparated]
    exact withoutUnderscores_lowerSeparatedAfter [] _

end ConstructSchema.PackageName
