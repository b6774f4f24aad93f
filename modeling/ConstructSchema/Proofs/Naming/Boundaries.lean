import ConstructSchema.Naming.PackageName
import Mathlib.Data.List.Infix
import Mathlib.Tactic.ByContra

/-!
Word boundaries of a capitalized name.

The two passes of a package name go over the text from the left, take whole matches and go on behind
them, and the second one reads what the first one wrote. What comes out depends on neither: an
underscore stands behind a character exactly if that character and the two that follow it in the
original text form a boundary (`isBoundary`), position by position
(`ofChars_eq_lowerChars_separated`).

The first pass takes a run of capitals as long as it can and gives some back. There is no choice in
it: what it leaves has to start with a capital and a small letter, so its run has to end right
before the last capital in front (`capitalsBeforeWord_eq_some_iff`).
-/

namespace ConstructSchema.Text

/-! ## Insertion by a local condition -/

/-- The text with an underscore behind each character at which a condition holds. The condition sees
the text from the character on, as it was before any insertion. -/
def insertUnderscores (condition : List Char → Bool) (cs : List Char) : List Char :=
  cs.tails.flatMap fun
    | [] => []
    | c :: rest => if condition (c :: rest) then [c, '_'] else [c]

variable {condition : List Char → Bool}

theorem insertUnderscores_cons (c : Char) (cs : List Char) :
    insertUnderscores condition (c :: cs) =
      (if condition (c :: cs) then [c, '_'] else [c]) ++ insertUnderscores condition cs := by
  simp [insertUnderscores]

theorem insertUnderscores_cons_of_true {c : Char} {cs : List Char}
    (h : condition (c :: cs) = true) :
    insertUnderscores condition (c :: cs) = c :: '_' :: insertUnderscores condition cs := by
  simp [insertUnderscores_cons, h]

theorem insertUnderscores_cons_of_false {c : Char} {cs : List Char}
    (h : condition (c :: cs) = false) :
    insertUnderscores condition (c :: cs) = c :: insertUnderscores condition cs := by
  simp [insertUnderscores_cons, h]

/-- The first character stays the first. -/
theorem head?_insertUnderscores (cs : List Char) :
    (insertUnderscores condition cs).head? = cs.head? := by
  cases cs with
  | nil => rfl
  | cons c rest =>
    rw [insertUnderscores_cons]
    split <;> rfl

/-- A pattern inserts underscores by a local condition if the condition fails wherever the pattern
does not match, and each match is replaced by what the condition makes of it, with all of it taken
that could influence the rest. -/
theorem replaceMatches_eq_insertUnderscores {pattern : Pattern}
    (hnone : ∀ c cs, pattern (c :: cs) = none → condition (c :: cs) = false)
    (hsome : ∀ c cs found, pattern (c :: cs) = some found →
      insertUnderscores condition (c :: cs) =
        found.replacement ++ insertUnderscores condition (cs.drop found.further))
    (cs : List Char) : replaceMatches pattern cs = insertUnderscores condition cs := by
  fun_induction replaceMatches pattern cs with
  | case1 => rfl
  | case2 c cs h ih => rw [ih, insertUnderscores_cons_of_false (hnone c cs h)]
  | case3 c cs found h ih => rw [ih, hsome c cs found h]

end ConstructSchema.Text

namespace ConstructSchema.PackageName

open Text

/-! ## Letters -/

theorem not_isSmall_of_isCapital {c : Char} (h : isCapital c = true) : isSmall c = false := by
  simp only [isCapital, isSmall, Bool.and_eq_true, Bool.and_eq_false_iff, decide_eq_true_eq,
    decide_eq_false_iff_not, Char.le_def, UInt32.le_iff_toNat_le] at h ⊢
  have hA : 'a'.val.toNat = 97 := rfl
  have hZ : 'Z'.val.toNat = 90 := rfl
  omega

theorem not_isCapital_of_isSmall {c : Char} (h : isSmall c = true) : isCapital c = false := by
  by_contra hcapital
  simp [not_isSmall_of_isCapital (Bool.of_not_eq_false hcapital)] at h

/-! ## Boundaries -/

/-- A small letter, then a capital: a word ends at the first of them. -/
def endsWord : List Char → Bool
  | c :: d :: _ => isSmall c && isCapital d
  | _ => false

/-- Two capitals, then a small letter: the second capital starts a word. -/
def endsAcronym : List Char → Bool
  | c :: d :: e :: _ => isCapital c && isCapital d && isSmall e
  | _ => false

/-- An underscore goes behind the first character. -/
def isBoundary (cs : List Char) : Bool :=
  endsWord cs || endsAcronym cs

/-- The name with an underscore at each boundary. -/
def separated (cs : List Char) : List Char :=
  insertUnderscores isBoundary cs

theorem endsWord_of_not_isSmall {c : Char} (h : isSmall c = false) (cs : List Char) :
    endsWord (c :: cs) = false := by
  cases cs with
  | nil => rfl
  | cons d rest => simp [endsWord, h]

/-- Of the text behind its first character, the end of a word depends on the next one only. -/
theorem endsWord_congr {cs ds : List Char} (h : cs.head? = ds.head?) (c : Char) :
    endsWord (c :: cs) = endsWord (c :: ds) := by
  cases cs with
  | nil => rw [List.head?_eq_none_iff.1 h.symm]
  | cons d rest =>
    obtain ⟨rest', rfl⟩ := List.head?_eq_some_iff.1 h.symm
    rfl

theorem endsAcronym_cons (c : Char) (cs : List Char) :
    endsAcronym (c :: cs) = (isCapital c && startsWord cs) := by
  rcases cs with _ | ⟨d, _ | ⟨e, rest⟩⟩
  · simp [endsAcronym, startsWord]
  · simp [endsAcronym, startsWord]
  · simp [endsAcronym, startsWord, Bool.and_assoc]

/-- A boundary is behind a letter of ASCII and in front of a capital. -/
theorem exists_capital_of_isBoundary {c : Char} {cs : List Char} (h : isBoundary (c :: cs) = true) :
    (isCapital c = true ∨ isSmall c = true) ∧ ∃ d rest, cs = d :: rest ∧ isCapital d = true := by
  cases cs with
  | nil => simp [isBoundary, endsWord, endsAcronym] at h
  | cons d rest =>
    rcases Bool.or_eq_true_iff.1 h with hword | hacronym
    · obtain ⟨hc, hd⟩ := Bool.and_eq_true_iff.1 hword
      exact ⟨.inr hc, d, rest, rfl, hd⟩
    · cases rest with
      | nil => simp [endsAcronym] at hacronym
      | cons e behind =>
        simp only [endsAcronym, Bool.and_eq_true] at hacronym
        exact ⟨.inl hacronym.1.1, d, e :: behind, rfl, hacronym.1.2⟩

/-! ## The run of capitals -/

theorem startsWord_eq_true_iff {cs : List Char} :
    startsWord cs = true ↔
      ∃ d e rest, cs = d :: e :: rest ∧ isCapital d = true ∧ isSmall e = true := by
  rcases cs with _ | ⟨d, _ | ⟨e, rest⟩⟩
  · simp [startsWord]
  · simp [startsWord]
  · simp [startsWord]

theorem startsWord_of_not_isCapital {c : Char} (h : isCapital c = false) (cs : List Char) :
    startsWord (c :: cs) = false := by
  cases cs with
  | nil => rfl
  | cons d rest => simp [startsWord, h]

/-- Where a word starts, its capital is the last one. -/
theorem capitalsBeforeWord_of_startsWord {cs : List Char} (h : startsWord cs = true) :
    capitalsBeforeWord cs = none := by
  obtain ⟨d, e, rest, rfl, -, he⟩ := startsWord_eq_true_iff.1 h
  have hcapital := not_isCapital_of_isSmall he
  simp [capitalsBeforeWord, hcapital, startsWord_of_not_isCapital hcapital]

theorem capitalsBeforeWord_ne_some_zero (cs : List Char) : capitalsBeforeWord cs ≠ some 0 := by
  cases cs with
  | nil => simp [capitalsBeforeWord]
  | cons c rest =>
    rw [capitalsBeforeWord]
    split
    · split
      · simp
      · split <;> simp
    · simp

section

variable {c : Char} (hc : isCapital c = true) (rest : List Char)
include hc

/-- One capital is taken if the word starts right behind it: then more cannot be taken. -/
theorem capitalsBeforeWord_cons_eq_some_one_iff :
    capitalsBeforeWord (c :: rest) = some 1 ↔ startsWord rest = true := by
  rw [capitalsBeforeWord, if_pos hc]
  cases hrest : capitalsBeforeWord rest with
  | none => simp
  | some m =>
    have hm : m ≠ 0 := by
      rintro rfl
      exact capitalsBeforeWord_ne_some_zero rest hrest
    have hword : startsWord rest ≠ true := by
      intro hword
      simp [capitalsBeforeWord_of_startsWord hword] at hrest
    simp [hm, hword]

theorem capitalsBeforeWord_cons_eq_some_add_two_iff (n : Nat) :
    capitalsBeforeWord (c :: rest) = some (n + 2) ↔ capitalsBeforeWord rest = some (n + 1) := by
  rw [capitalsBeforeWord, if_pos hc]
  cases capitalsBeforeWord rest with
  | none => by_cases hword : startsWord rest = true <;> simp [hword]
  | some m => simp

end

/-- There is no choice in how many capitals are taken: every number of them that leaves a word is
the one found. -/
theorem capitalsBeforeWord_eq_some_iff {cs : List Char} {n : Nat} :
    capitalsBeforeWord cs = some n ↔
      n ≠ 0 ∧ (∀ c ∈ cs.take n, isCapital c = true) ∧ startsWord (cs.drop n) = true := by
  induction cs generalizing n with
  | nil => simp [capitalsBeforeWord, startsWord]
  | cons c rest ih =>
    by_cases hc : isCapital c = true
    · match n with
      | 0 => simp [capitalsBeforeWord_ne_some_zero]
      | 1 => simp [capitalsBeforeWord_cons_eq_some_one_iff hc, hc]
      | n + 2 =>
        rw [capitalsBeforeWord_cons_eq_some_add_two_iff hc, ih]
        simp [hc]
    · cases n with
      | zero => simp [capitalsBeforeWord_ne_some_zero]
      | succ n => simp [capitalsBeforeWord, hc]

/-! ## The two passes -/

/-- A run of capitals in front of a word: an underscore goes behind the run and nowhere else in it
or in the two characters of the word. -/
theorem insertUnderscores_run {run rest : List Char} {d e : Char} (hne : run ≠ [])
    (hrun : ∀ c ∈ run, isCapital c = true) (hd : isCapital d = true) (he : isSmall e = true) :
    insertUnderscores endsAcronym (run ++ d :: e :: rest) =
      run ++ '_' :: d :: e :: insertUnderscores endsAcronym rest := by
  have he' := not_isCapital_of_isSmall he
  induction run with
  | nil => exact absurd rfl hne
  | cons a run ih =>
    obtain ⟨ha, hrun⟩ := List.forall_mem_cons.1 hrun
    cases run with
    | nil =>
      have hhere : endsAcronym (a :: d :: e :: rest) = true := by simp [endsAcronym, ha, hd, he]
      have hword : endsAcronym (d :: e :: rest) = false := by
        simp [endsAcronym_cons, startsWord_of_not_isCapital he']
      have hrest : endsAcronym (e :: rest) = false := by simp [endsAcronym_cons, he']
      rw [List.singleton_append, insertUnderscores_cons_of_true hhere,
        insertUnderscores_cons_of_false hword, insertUnderscores_cons_of_false hrest]
      rfl
    | cons b run =>
      -- Behind the next capital there is another one, and no small letter.
      have hhere : endsAcronym (a :: ((b :: run) ++ d :: e :: rest)) = false := by
        cases run with
        | nil => simp [endsAcronym, not_isSmall_of_isCapital hd]
        | cons c run => simp [endsAcronym, not_isSmall_of_isCapital (hrun c (by simp))]
      rw [List.cons_append, insertUnderscores_cons_of_false hhere, ih (by simp) hrun]
      rfl

/-- The first pass puts an underscore at the end of each acronym. -/
theorem replaceMatches_acronymBoundary (cs : List Char) :
    replaceMatches acronymBoundary cs = insertUnderscores endsAcronym cs := by
  refine replaceMatches_eq_insertUnderscores (fun c cs h => ?_) (fun c cs found h => ?_) cs
  · by_contra hend
    rw [Bool.not_eq_false, endsAcronym_cons, Bool.and_eq_true] at hend
    have hone : capitalsBeforeWord (c :: cs) = some 1 :=
      capitalsBeforeWord_eq_some_iff.2 ⟨by simp, by simpa using hend.1, by simpa using hend.2⟩
    simp [acronymBoundary, hone] at h
  · cases hrun : capitalsBeforeWord (c :: cs) with
    | none => simp [acronymBoundary, hrun] at h
    | some n =>
      simp only [acronymBoundary, hrun, Option.some.injEq] at h
      subst h
      obtain ⟨hn, hcapitals, hword⟩ := capitalsBeforeWord_eq_some_iff.1 hrun
      obtain ⟨d, e, rest, hdrop, hd, he⟩ := startsWord_eq_true_iff.1 hword
      have htake : (c :: cs).take n ≠ [] := by simp [hn]
      have hrest : cs.drop (n + 1) = rest := by
        rw [← List.drop_succ_cons (a := c), ← List.drop_drop (i := 2), hdrop]
        rfl
      conv_lhs => rw [← List.take_append_drop n (c :: cs), hdrop]
      rw [insertUnderscores_run htake hcapitals hd he, hdrop, hrest]
      simp

/-- The second pass puts an underscore at the end of each word. -/
theorem replaceMatches_wordBoundary (cs : List Char) :
    replaceMatches wordBoundary cs = insertUnderscores endsWord cs := by
  refine replaceMatches_eq_insertUnderscores (fun c cs h => ?_) (fun c cs found h => ?_) cs
  · cases cs with
    | nil => rfl
    | cons d rest => simpa [wordBoundary, endsWord] using h
  · cases cs with
    | nil => simp [wordBoundary] at h
    | cons d rest =>
      simp only [wordBoundary, Option.ite_none_right_eq_some, Option.some.injEq] at h
      obtain ⟨hend, rfl⟩ := h
      have hd : isSmall d = false :=
        not_isSmall_of_isCapital (Bool.and_eq_true_iff.1 hend).2
      rw [insertUnderscores_cons_of_true (by simpa [endsWord] using hend),
        insertUnderscores_cons_of_false (endsWord_of_not_isSmall hd rest)]
      rfl

/-- An underscore is neither a capital nor a small letter, so the second pass finds the ends of
words where they were before the first one. -/
theorem insertUnderscores_endsWord_endsAcronym (cs : List Char) :
    insertUnderscores endsWord (insertUnderscores endsAcronym cs) = separated cs := by
  unfold separated
  induction cs with
  | nil => rfl
  | cons c rest ih =>
    by_cases hend : endsAcronym (c :: rest) = true
    · have hc : isCapital c = true := by
        rw [endsAcronym_cons, Bool.and_eq_true] at hend
        exact hend.1
      have hboundary : isBoundary (c :: rest) = true := by simp [isBoundary, hend]
      rw [insertUnderscores_cons_of_true hend, insertUnderscores_cons_of_true hboundary,
        insertUnderscores_cons_of_false (endsWord_of_not_isSmall (not_isSmall_of_isCapital hc) _),
        insertUnderscores_cons_of_false (endsWord_of_not_isSmall rfl _), ih]
    · have hboundary : isBoundary (c :: rest) = endsWord (c :: rest) := by simp [isBoundary, hend]
      rw [insertUnderscores_cons_of_false (Bool.of_not_eq_true hend), insertUnderscores_cons,
        insertUnderscores_cons, hboundary, ih,
        endsWord_congr (head?_insertUnderscores rest)]

/-- Both passes together are one local rule. -/
theorem ofChars_eq_lowerChars_separated (cs : List Char) :
    ofChars cs = lowerChars (separated cs) := by
  rw [ofChars, replaceMatches_acronymBoundary, replaceMatches_wordBoundary,
    insertUnderscores_endsWord_endsAcronym]

/-- **A package name is the lower case of the name separated at its boundaries.** Whether an
underscore stands between two characters depends on these two and on the next one only. -/
theorem ofCapitalized_eq_lowercase_separated (name : String) :
    ofCapitalized name = lowercase (String.ofList (separated name.toList)) := by
  rw [ofCapitalized, lowercase, String.toList_ofList, ofChars_eq_lowerChars_separated]

example : separated "EMRServerlessV2".toList = "EMR_Serverless_V2".toList := by decide

end ConstructSchema.PackageName
