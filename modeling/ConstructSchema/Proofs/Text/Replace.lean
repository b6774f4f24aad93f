import ConstructSchema.Text.Replace
import Mathlib.Data.List.Basic

/-!
Where the first occurrence of a pattern is.

A text either stays as it is or is cut at an occurrence (`replaceFirstChars_eq_self_or`). A text
that is put together from two parts has its first occurrence of a character in the first part if the
character is there (`replaceFirst_append_of_mem`), and else in the second
(`replaceFirst_append_of_not_mem`). The other part stays as it is.
-/

namespace ConstructSchema.Text

/-! ## Characters -/

/-- The text stays as it is, or the replacement stands where the pattern stood. -/
theorem replaceFirstChars_eq_self_or (pattern replacement s : List Char) :
    replaceFirstChars pattern replacement s = s ∨
      ∃ p q, s = p ++ pattern ++ q ∧
        replaceFirstChars pattern replacement s = p ++ replacement ++ q := by
  rcases replaceFirstChars_cases pattern replacement s with
    ⟨-, hself⟩ | ⟨p, q, hcut, -, hreplaced⟩
  · exact .inl hself
  · exact .inr ⟨p, q, hcut, hreplaced⟩

variable {c : Char} {replacement s : List Char}

theorem replaceFirstChars_singleton_cons (d : Char) (cs : List Char) :
    replaceFirstChars [c] replacement (d :: cs) =
      if c = d then replacement ++ cs else d :: replaceFirstChars [c] replacement cs := by
  by_cases h : c = d
  · simp [replaceFirstChars, h]
  · simp [replaceFirstChars, h]

theorem replaceFirstChars_append_of_mem (h : c ∈ s) (t : List Char) :
    replaceFirstChars [c] replacement (s ++ t) = replaceFirstChars [c] replacement s ++ t := by
  induction s with
  | nil => simp at h
  | cons d rest ih =>
    rw [List.cons_append, replaceFirstChars_singleton_cons, replaceFirstChars_singleton_cons]
    by_cases hd : c = d
    · simp [hd]
    · have hrest : c ∈ rest := by simpa [hd] using h
      simp [hd, ih hrest]

theorem replaceFirstChars_append_of_not_mem (h : c ∉ s) (t : List Char) :
    replaceFirstChars [c] replacement (s ++ t) = s ++ replaceFirstChars [c] replacement t := by
  induction s with
  | nil => rfl
  | cons d rest ih =>
    rw [List.mem_cons, not_or] at h
    rw [List.cons_append, replaceFirstChars_singleton_cons, if_neg h.1, ih h.2, List.cons_append]

/-- The same for one character in place of another one. -/
theorem replaceFirstChars_singleton_eq_self_or (c d : Char) (s : List Char) :
    replaceFirstChars [c] [d] s = s ∨
      ∃ p q, s = p ++ c :: q ∧ replaceFirstChars [c] [d] s = p ++ d :: q := by
  simpa using replaceFirstChars_eq_self_or [c] [d] s

/-- Replacing a character by one that is in neither text keeps the texts apart. -/
theorem eq_of_replaceFirstChars_eq {d : Char} {t : List Char} (hs : d ∉ s) (ht : d ∉ t)
    (h : replaceFirstChars [c] [d] s = replaceFirstChars [c] [d] t) : s = t := by
  rcases replaceFirstChars_singleton_eq_self_or c d s with hself | ⟨p, q, hcut, hreplaced⟩
  · rw [hself] at h
    rcases replaceFirstChars_singleton_eq_self_or c d t with hself' | ⟨p', q', -, hreplaced'⟩
    · rw [h, hself']
    · rw [h, hreplaced'] at hs
      simp at hs
  · rw [hreplaced] at h
    rcases replaceFirstChars_singleton_eq_self_or c d t with hself' | ⟨p', q', hcut', hreplaced'⟩
    · rw [← hself', ← h] at ht
      simp at ht
    · have hd : d ∉ p ∧ d ∉ q := by
        rw [hcut] at hs
        simp_all
      rw [hreplaced', List.append_cons_inj_of_notMem hd.1 hd.2] at h
      rw [hcut, hcut', h.1, h.2.2]

/-! ## Texts -/

variable {pattern : String} (hpattern : pattern.toList = [c])
include hpattern

/-- The first part holds the character: only there it is replaced. -/
theorem replaceFirst_append_of_mem {s : String} (h : c ∈ s.toList) (t replacement : String) :
    replaceFirst (s ++ t) pattern replacement = replaceFirst s pattern replacement ++ t := by
  unfold replaceFirst
  rw [hpattern, String.toList_append, replaceFirstChars_append_of_mem h, String.ofList_append,
    String.ofList_toList]

/-- The first part does not hold the character: it is looked for in the second. -/
theorem replaceFirst_append_of_not_mem {s : String} (h : c ∉ s.toList) (t replacement : String) :
    replaceFirst (s ++ t) pattern replacement = s ++ replaceFirst t pattern replacement := by
  unfold replaceFirst
  rw [hpattern, String.toList_append, replaceFirstChars_append_of_not_mem h, String.ofList_append,
    String.ofList_toList]

theorem replaceFirst_of_not_mem {s : String} (h : c ∉ s.toList) (replacement : String) :
    replaceFirst s pattern replacement = s := by
  have hempty := replaceFirst_append_of_not_mem hpattern h "" replacement
  have hnone : replaceFirst "" pattern replacement = "" := by
    unfold replaceFirst
    simp [hpattern, replaceFirstChars]
  rwa [hnone, String.append_empty] at hempty

end ConstructSchema.Text
