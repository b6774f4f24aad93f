/-!
Replacing the first occurrence of a text, and cutting a text at one.

An occurrence is looked for from the left; the empty text occurs in front of everything. What it
means to replace the first occurrence is said without looking for it (`FirstReplaced`), and
`replaceFirst` is the one function that does it (`replaceFirst_eq_iff`).
-/

namespace ConstructSchema.Text

/-- The characters with the first occurrence of `pattern` replaced, or as they were if there is
none. -/
def replaceFirstChars (pattern replacement : List Char) : List Char → List Char
  | [] => if pattern.isEmpty then replacement else []
  | c :: cs =>
    if pattern.isPrefixOf (c :: cs) then replacement ++ (c :: cs).drop pattern.length
    else c :: replaceFirstChars pattern replacement cs

/-- The text with the first occurrence of `pattern` replaced. -/
def replaceFirst (s pattern replacement : String) : String :=
  String.ofList (replaceFirstChars pattern.toList replacement.toList s.toList)

/-- The characters in front of the first occurrence of `separator`, or all if there is none. -/
def beforeChars (separator : List Char) : List Char → List Char
  | [] => []
  | c :: cs =>
    if separator.isPrefixOf (c :: cs) then [] else c :: beforeChars separator cs

/-- The text in front of the first occurrence of `separator`. -/
def before (s separator : String) : String :=
  String.ofList (beforeChars separator.toList s.toList)

/-! ## First occurrences -/

/-- The texts that `s` is when the first occurrence of `pattern` in it is replaced: itself if the
pattern does not occur, and else what is in front of that occurrence, the replacement, and what is
behind. -/
inductive FirstReplaced (pattern replacement s : String) : String → Prop
  | absent (never : ∀ front behind, s ≠ front ++ pattern ++ behind) :
    FirstReplaced pattern replacement s s
  | found {front behind : String} (cut : s = front ++ pattern ++ behind)
    (first : ∀ front' behind', s = front' ++ pattern ++ behind' →
      front.length ≤ front'.length) :
    FirstReplaced pattern replacement s (front ++ replacement ++ behind)

/-- Where the pattern is not in front, it occurs in the rest or not at all. -/
theorem exists_cons_of_not_prefix {pattern front behind rest : List Char} {c : Char}
    (hfront : ¬ pattern <+: c :: rest) (hcut : c :: rest = front ++ pattern ++ behind) :
    ∃ front', front = c :: front' ∧ rest = front' ++ pattern ++ behind := by
  cases front with
  | nil => exact absurd ⟨behind, hcut.symm⟩ hfront
  | cons d front' =>
    obtain ⟨rfl, hrest⟩ := List.cons.inj hcut
    exact ⟨front', rfl, hrest⟩

/-- Either the pattern does not occur and nothing changes, or it is replaced where it occurs with
the fewest characters in front. -/
theorem replaceFirstChars_cases (pattern replacement s : List Char) :
    (∀ front behind, s ≠ front ++ pattern ++ behind) ∧
        replaceFirstChars pattern replacement s = s ∨
      ∃ front behind, s = front ++ pattern ++ behind ∧
        (∀ front' behind', s = front' ++ pattern ++ behind' → front.length ≤ front'.length) ∧
        replaceFirstChars pattern replacement s = front ++ replacement ++ behind := by
  induction s with
  | nil =>
    cases pattern with
    | nil => exact .inr ⟨[], [], rfl, by simp, by simp [replaceFirstChars]⟩
    | cons c cs => exact .inl ⟨by simp, rfl⟩
  | cons c rest ih =>
    rw [replaceFirstChars]
    by_cases hfront : pattern.isPrefixOf (c :: rest) = true
    · have hcut := List.prefix_iff_eq_append.1 (List.isPrefixOf_iff_prefix.1 hfront)
      rw [if_pos hfront]
      exact .inr ⟨[], (c :: rest).drop pattern.length, hcut.symm, by simp, rfl⟩
    · -- Every occurrence is one in the rest, with one more character in front.
      rw [if_neg hfront]
      have hprefix : ¬ pattern <+: c :: rest := mt List.isPrefixOf_iff_prefix.2 hfront
      rcases ih with ⟨hnever, hself⟩ | ⟨front, behind, hcut, hfirst, hreplaced⟩
      · refine .inl ⟨fun front behind hcut => ?_, by rw [hself]⟩
        obtain ⟨front', -, hcut'⟩ := exists_cons_of_not_prefix hprefix hcut
        exact hnever front' behind hcut'
      · refine .inr ⟨c :: front, behind, by rw [hcut]; rfl, ?_, by rw [hreplaced]; rfl⟩
        intro front' behind' hcut'
        obtain ⟨front', rfl, hlater⟩ := exists_cons_of_not_prefix hprefix hcut'
        exact Nat.succ_le_succ (hfirst front' behind' hlater)

/-- A cut of a text is one of its characters. -/
theorem eq_append_iff_toList {s front pattern behind : String} :
    s = front ++ pattern ++ behind ↔
      s.toList = front.toList ++ pattern.toList ++ behind.toList := by
  rw [← String.toList_inj, String.toList_append, String.toList_append]

theorem firstReplaced_replaceFirst (s pattern replacement : String) :
    FirstReplaced pattern replacement s (replaceFirst s pattern replacement) := by
  unfold replaceFirst
  rcases replaceFirstChars_cases pattern.toList replacement.toList s.toList with
    ⟨hnever, hself⟩ | ⟨front, behind, hcut, hfirst, hreplaced⟩
  · rw [hself, String.ofList_toList]
    exact .absent fun front behind hcut => hnever _ _ (eq_append_iff_toList.1 hcut)
  · rw [hreplaced, String.ofList_append, String.ofList_append, String.ofList_toList]
    refine .found (eq_append_iff_toList.2 (by simpa using hcut)) fun front' behind' hcut' => ?_
    simpa [String.length_toList] using hfirst _ _ (eq_append_iff_toList.1 hcut')

/-- There are no two first occurrences. -/
theorem FirstReplaced.unique {pattern replacement s result result' : String}
    (h : FirstReplaced pattern replacement s result)
    (h' : FirstReplaced pattern replacement s result') : result = result' := by
  cases h with
  | absent hnever =>
    cases h' with
    | absent => rfl
    | found hcut => exact absurd hcut (hnever _ _)
  | @found front behind hcut hfirst =>
    cases h' with
    | absent hnever => exact absurd hcut (hnever _ _)
    | @found front' behind' hcut' hfirst' =>
      have hlength : front.toList.length = front'.toList.length := by
        rw [String.length_toList, String.length_toList]
        exact Nat.le_antisymm (hfirst _ _ hcut') (hfirst' _ _ hcut)
      have hsame := (eq_append_iff_toList.1 hcut).symm.trans (eq_append_iff_toList.1 hcut')
      obtain ⟨hleft, hbehind⟩ := List.append_inj hsame (by simp [hlength])
      have hfront := (List.append_inj hleft hlength).1
      rw [String.toList_inj.1 hfront, String.toList_inj.1 hbehind]

/-- The one text with the first occurrence replaced is the answer. -/
theorem replaceFirst_eq_iff {s pattern replacement result : String} :
    replaceFirst s pattern replacement = result ↔ FirstReplaced pattern replacement s result := by
  have hreplaced := firstReplaced_replaceFirst s pattern replacement
  constructor
  · rintro rfl
    exact hreplaced
  · exact hreplaced.unique

end ConstructSchema.Text
