import ConstructSchema.Text.Lowercase
import Mathlib.Data.List.Basic

/-!
Lower case leaves what it has made.

No code point that a run of the table leads to is covered by a run again (`not_mayMeet_of_mem`), and
neither of the characters that are written for a sigma or for a capital I with a dot above is. So
every character of a text in lower case is settled, and lower case leaves it as it is whatever
stands around it (`lowerChars_lowerChars`).

Where a character stands matters for the sigma alone, and there only through the first character
before and the first one behind that is not case-ignorable (`lowerCharIn_congr`).
-/

namespace ConstructSchema.Text

/-! ## Single characters -/

/-- The code points that lower case changes, as runs: those of the table, and capital I with a dot
above. -/
def changedRuns : List LowerRun :=
  ⟨0x130, 0x130, 1, 0x69⟩ :: lowerRuns

/-- Lower case leaves the character as it is. -/
def IsSettled (c : Char) : Prop :=
  changedRuns.any (·.covers c.toNat) = false

instance (c : Char) : Decidable (IsSettled c) :=
  inferInstanceAs (Decidable (changedRuns.any (·.covers c.toNat) = false))

theorem isSettled_iff {c : Char} :
    IsSettled c ↔ ∀ run ∈ changedRuns, run.covers c.toNat = false := by
  simp [IsSettled]

/-- What the first run leads to may be covered by the second: they overlap, and it is not so that
one goes over even and the other over odd numbers. -/
def LowerRun.mayMeet (r s : LowerRun) : Bool :=
  -- The images of a run of one code point are all even or all odd as well.
  Nat.ble r.image s.last && Nat.ble s.first (r.image + (r.last - r.first)) &&
    !((r.step == 2 || r.first == r.last) && s.step == 2 && r.image % 2 != s.first % 2)

theorem LowerRun.covers_image_eq_false {r s : LowerRun} (h : r.mayMeet s = false) {n : Nat}
    (hn : r.covers n = true) : s.covers (r.image + (n - r.first)) = false := by
  simp only [covers, Bool.and_eq_true, decide_eq_true_eq, beq_iff_eq] at hn
  obtain ⟨⟨hfirst, hlast⟩, hstep⟩ := hn
  simp only [mayMeet, Bool.and_eq_false_iff, Bool.not_eq_false', Bool.and_eq_true, Bool.or_eq_true,
    beq_iff_eq, bne_iff_ne] at h
  simp only [covers, Bool.and_eq_false_iff, decide_eq_false_iff_not, beq_eq_false_iff_ne]
  rcases h with (habove | hbelow) | ⟨⟨hr, hs⟩, hparity⟩
  · rw [← Bool.not_eq_true, Nat.ble_eq] at habove
    omega
  · rw [← Bool.not_eq_true, Nat.ble_eq] at hbelow
    omega
  · rw [hs]
    rcases hr with hr | hr
    · rw [hr] at hstep
      omega
    · omega

/-- The images of a run are characters. -/
def LowerRun.hasCharImages (r : LowerRun) : Bool :=
  r.image + (r.last - r.first) < 0xd800 ||
    (0xdfff < r.image && r.image + (r.last - r.first) < 0x110000)

theorem LowerRun.toNat_ofNat_image {r : LowerRun} (h : r.hasCharImages = true) {n : Nat}
    (hn : r.covers n = true) :
    (Char.ofNat (r.image + (n - r.first))).toNat = r.image + (n - r.first) := by
  have hvalid : (r.image + (n - r.first)).isValidChar := by
    simp only [covers, Bool.and_eq_true, decide_eq_true_eq] at hn
    simp only [hasCharImages, Bool.or_eq_true, Bool.and_eq_true, decide_eq_true_eq] at h
    unfold Nat.isValidChar
    omega
  rw [Char.ofNat, dif_pos hvalid]
  rfl

/-- The table leads to characters that are not changed again. -/
theorem lowerRuns_lead_past :
    lowerRuns.all (fun r => r.hasCharImages && !changedRuns.any r.mayMeet) = true := by
  decide +kernel

theorem not_mayMeet_of_mem {r : LowerRun} (h : r ∈ lowerRuns) :
    r.hasCharImages = true ∧ ∀ s ∈ changedRuns, r.mayMeet s = false := by
  have hr := List.all_eq_true.1 lowerRuns_lead_past r h
  simpa using hr

theorem isSettled_lowerChar {c : Char} (hc : c ≠ 'İ') : IsSettled (lowerChar c) := by
  rw [isSettled_iff]
  intro s hs
  unfold lowerChar
  cases hfind : lowerRuns.find? (·.covers c.toNat) with
  | some r =>
    have hcovers : r.covers c.toNat = true := by simpa using List.find?_some hfind
    obtain ⟨hchar, hnot⟩ := not_mayMeet_of_mem (List.mem_of_find?_eq_some hfind)
    rw [LowerRun.toNat_ofNat_image hchar hcovers]
    exact LowerRun.covers_image_eq_false (hnot s hs) hcovers
  | none =>
    rcases List.mem_cons.1 hs with rfl | hs
    · have hne : c.toNat ≠ 0x130 := fun h => hc (Char.toNat_inj.1 h)
      simp only [LowerRun.covers, Bool.and_eq_false_iff, decide_eq_false_iff_not]
      omega
    · simpa using List.find?_eq_none.1 hfind s hs

namespace IsSettled

variable {c : Char} (h : IsSettled c)
include h

theorem lowerChar_eq : lowerChar c = c := by
  have hfind : lowerRuns.find? (·.covers c.toNat) = none :=
    List.find?_eq_none.2 fun run hrun => by
      simp [isSettled_iff.1 h run (List.mem_cons_of_mem _ hrun)]
  rw [lowerChar, hfind]

theorem ne_of_not {d : Char} (hd : ¬ IsSettled d) : c ≠ d := by
  rintro rfl
  exact hd h

/-- Nothing that stands around it matters. -/
theorem lowerCharIn_eq (before behind : List Char) : lowerCharIn before c behind = [c] := by
  rw [lowerCharIn, if_neg (h.ne_of_not (by decide +kernel)),
    if_neg (h.ne_of_not (by decide +kernel)), h.lowerChar_eq]

end IsSettled

theorem isSettled_of_mem_lowerCharIn {before behind : List Char} {c d : Char}
    (h : d ∈ lowerCharIn before c behind) : IsSettled d := by
  unfold lowerCharIn at h
  split at h
  · split at h
    · rw [List.mem_singleton.1 h]
      decide +kernel
    · rw [List.mem_singleton.1 h]
      decide +kernel
  · split at h
    · rcases List.mem_cons.1 h with rfl | h
      · decide +kernel
      · rw [List.mem_singleton.1 h]
        decide +kernel
    · rename_i hc
      rw [List.mem_singleton.1 h]
      exact isSettled_lowerChar hc

/-! ## Texts -/

theorem isSettled_of_mem_lowerCharsAfter {before cs : List Char} {d : Char}
    (h : d ∈ lowerCharsAfter before cs) : IsSettled d := by
  induction cs generalizing before with
  | nil => simp [lowerCharsAfter] at h
  | cons c rest ih =>
    rcases List.mem_append.1 h with hhere | hrest
    · exact isSettled_of_mem_lowerCharIn hhere
    · exact ih hrest

theorem lowerCharsAfter_of_isSettled {cs : List Char} (h : ∀ c ∈ cs, IsSettled c)
    (before : List Char) : lowerCharsAfter before cs = cs := by
  induction cs generalizing before with
  | nil => rfl
  | cons c rest ih =>
    obtain ⟨hc, hrest⟩ := List.forall_mem_cons.1 h
    rw [lowerCharsAfter, hc.lowerCharIn_eq, ih hrest, List.singleton_append]

/-- Lower case a second time changes nothing. -/
theorem lowerChars_lowerChars (cs : List Char) : lowerChars (lowerChars cs) = lowerChars cs :=
  lowerCharsAfter_of_isSettled (fun _ => isSettled_of_mem_lowerCharsAfter) []

/-! ## What stands around a character -/

theorem meetsCased_cons_of_ignorable {c : Char} (h : isCaseIgnorable c = true) (cs : List Char) :
    meetsCased (c :: cs) = meetsCased cs := by
  simp [meetsCased, h]

theorem meetsCased_cons_of_not_ignorable {c : Char} (h : isCaseIgnorable c = false)
    (cs : List Char) : meetsCased (c :: cs) = isCased c := by
  simp [meetsCased, h]

/-- Only a capital sigma is lowered by what stands around it. -/
theorem lowerCharIn_congr {before before' behind behind' : List Char} {c : Char}
    (h : c = 'Σ' →
      meetsCased before = meetsCased before' ∧ meetsCased behind = meetsCased behind') :
    lowerCharIn before c behind = lowerCharIn before' c behind' := by
  unfold lowerCharIn
  split
  · rename_i hc
    obtain ⟨hbefore, hbehind⟩ := h hc
    rw [sigmaEndsWord, sigmaEndsWord, hbefore, hbehind]
  · rfl

end ConstructSchema.Text
