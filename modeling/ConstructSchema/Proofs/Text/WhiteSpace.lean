import ConstructSchema.Text.WhiteSpace
import Mathlib.Data.List.DropRight

/-!
What is left of a text without the white space around it.

`TrimsTo` says it without a word on how it is found: there is white space in front, white space
behind, and between them a text that neither starts nor ends with white space. Exactly one text fits
that, and it is the one that `trim` gives (`trimsTo_iff`). What is left has nothing more to lose
(`TrimsTo.trim_eq_self`).
-/

namespace ConstructSchema.Text

/-! ## Characters -/

variable {front inside behind : List Char}

theorem trimChars_eq (cs : List Char) :
    trimChars cs = (cs.dropWhile isWhiteSpace).rdropWhile isWhiteSpace := rfl

/-- White space on both sides is dropped, and nothing else is. -/
theorem trimChars_around (hfront : ∀ c ∈ front, isWhiteSpace c = true)
    (hbehind : ∀ c ∈ behind, isWhiteSpace c = true)
    (hstarts : ∀ c ∈ inside.head?, isWhiteSpace c = false)
    (hends : ∀ c ∈ inside.getLast?, isWhiteSpace c = false) :
    trimChars (front ++ inside ++ behind) = inside := by
  rw [trimChars, List.append_assoc, List.dropWhile_append_of_pos hfront]
  cases inside with
  | nil => simp [List.dropWhile_eq_nil_iff.2 hbehind]
  | cons c rest =>
    have hstop : (c :: rest ++ behind).dropWhile isWhiteSpace = c :: rest ++ behind := by
      simp [hstarts c rfl]
    have hreversed : ∀ d ∈ behind.reverse, isWhiteSpace d = true := by simpa using hbehind
    have hlast : (c :: rest).rdropWhile isWhiteSpace = c :: rest := by
      refine List.rdropWhile_eq_self_iff.2 fun hne => ?_
      simp [hends _ (List.getLast?_eq_some_getLast hne)]
    rw [hstop, List.reverse_append, List.dropWhile_append_of_pos hreversed]
    exact hlast

/-- What is left starts where the white space in front ends. -/
theorem head?_trimChars (cs : List Char) : ∀ c ∈ (trimChars cs).head?, isWhiteSpace c = false := by
  intro c hc
  obtain ⟨rest, hrest⟩ := List.head?_eq_some_iff.1 hc
  obtain ⟨behind, hbehind⟩ := List.rdropWhile_prefix isWhiteSpace (cs.dropWhile isWhiteSpace)
  have hstop := List.head?_dropWhile_not isWhiteSpace cs
  have hdropped : cs.dropWhile isWhiteSpace = c :: (rest ++ behind) := by
    rw [← hbehind, ← trimChars_eq, hrest, List.cons_append]
  simpa [hdropped] using hstop

/-- What is left ends where the white space behind starts. -/
theorem getLast?_trimChars (cs : List Char) :
    ∀ c ∈ (trimChars cs).getLast?, isWhiteSpace c = false := by
  intro c hc
  rw [trimChars_eq] at hc
  obtain ⟨hne, rfl⟩ := List.mem_getLast?_eq_getLast hc
  simpa using List.rdropWhile_last_not isWhiteSpace _ hne

/-- What is dropped is white space. -/
theorem exists_eq_trimChars_around (cs : List Char) :
    ∃ front behind, cs = front ++ trimChars cs ++ behind ∧
      (∀ c ∈ front, isWhiteSpace c = true) ∧ ∀ c ∈ behind, isWhiteSpace c = true := by
  refine ⟨cs.takeWhile isWhiteSpace, (cs.dropWhile isWhiteSpace).rtakeWhile isWhiteSpace, ?_,
    fun c => List.mem_takeWhile_imp, fun c => List.mem_rtakeWhile_imp⟩
  calc cs = cs.takeWhile isWhiteSpace ++ cs.dropWhile isWhiteSpace :=
        List.takeWhile_append_dropWhile.symm
    _ = cs.takeWhile isWhiteSpace ++ (trimChars cs ++
          (cs.dropWhile isWhiteSpace).rtakeWhile isWhiteSpace) :=
        congrArg _ (List.rdropWhile_append_rtakeWhile ..).symm
    _ = _ := (List.append_assoc ..).symm

/-! ## Texts -/

/-- A text is what is left of another one without the white space around it. -/
structure TrimsTo (raw text : String) : Prop where
  around : ∃ front behind, raw.toList = front ++ text.toList ++ behind ∧
    (∀ c ∈ front, isWhiteSpace c = true) ∧ ∀ c ∈ behind, isWhiteSpace c = true
  starts : ∀ c ∈ text.toList.head?, isWhiteSpace c = false
  ends : ∀ c ∈ text.toList.getLast?, isWhiteSpace c = false

variable {raw text : String}

@[simp] theorem toList_trim (s : String) : (trim s).toList = trimChars s.toList := by
  simp [trim]

/-- One text is left, and trimming finds it. -/
theorem trimsTo_iff : TrimsTo raw text ↔ text = trim raw := by
  constructor
  · intro h
    obtain ⟨front, behind, hraw, hfront, hbehind⟩ := h.around
    rw [← String.toList_inj, toList_trim, hraw,
      trimChars_around hfront hbehind h.starts h.ends]
  · rintro rfl
    constructor
    case around => simpa using exists_eq_trimChars_around raw.toList
    case starts => simpa using head?_trimChars raw.toList
    case ends => simpa using getLast?_trimChars raw.toList

/-- What is left has no white space around it. -/
theorem TrimsTo.trim_eq_self (h : TrimsTo raw text) : trim text = text := by
  have hself : TrimsTo text text := ⟨⟨[], [], by simp⟩, h.starts, h.ends⟩
  exact (trimsTo_iff.1 hself).symm

end ConstructSchema.Text
