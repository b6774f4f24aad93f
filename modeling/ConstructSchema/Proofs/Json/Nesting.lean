import ConstructSchema.Proofs.Json.Pretty

/-!
How deeply the brackets of a text are nested.

`Json.nesting` looks at the characters alone: it counts the brackets and braces that are open and
passes over string literals. For a printed value it is the number of levels of the value
(`Textual.nesting_pretty`). A reader with room for as many levels as the text has characters reads
every printed value back (`Textual.valueOf_pretty`).
-/

namespace ConstructSchema.Json

mutual

/-- The greatest number of open brackets and braces in a text behind `depth` of them. -/
def deepest : Nat → List Char → Nat
  | depth, [] => depth
  | depth, '"' :: cs => deepestBehindLiteral depth cs
  | depth, '[' :: cs => deepest (depth + 1) cs
  | depth, '{' :: cs => deepest (depth + 1) cs
  | depth, ']' :: cs => max depth (deepest (depth - 1) cs)
  | depth, '}' :: cs => max depth (deepest (depth - 1) cs)
  | depth, _ :: cs => deepest depth cs

/-- The greatest number of open brackets and braces behind a string literal whose opening quote was
passed over. -/
def deepestBehindLiteral : Nat → List Char → Nat
  | depth, [] => depth
  | depth, '"' :: cs => deepest depth cs
  | depth, '\\' :: _ :: cs => deepestBehindLiteral depth cs
  | depth, _ :: cs => deepestBehindLiteral depth cs

end

/-- The greatest number of brackets and braces that are open at one place of a text. -/
def nesting (text : String) : Nat :=
  deepest 0 text.toList

/-! ## Characters without brackets -/

/-- Brackets that are open already count. -/
theorem le_deepest (depth : Nat) (cs : List Char) : depth ≤ deepest depth cs := by
  refine deepest.induct (fun depth cs => depth ≤ deepest depth cs)
    (fun depth cs => depth ≤ deepestBehindLiteral depth cs)
    ?_ ?_ ?_ ?_ ?_ ?_ ?_ ?_ ?_ ?_ ?_ depth cs
  all_goals intros; simp only [deepest, deepestBehindLiteral]; omega

/-- Each bracket that is open takes a character. -/
theorem deepest_le (depth : Nat) (cs : List Char) : deepest depth cs ≤ depth + cs.length := by
  refine deepest.induct (fun depth cs => deepest depth cs ≤ depth + cs.length)
    (fun depth cs => deepestBehindLiteral depth cs ≤ depth + cs.length)
    ?_ ?_ ?_ ?_ ?_ ?_ ?_ ?_ ?_ ?_ ?_ depth cs
  all_goals intros; simp only [deepest, deepestBehindLiteral, List.length_cons] at *; omega

/-- A character that is no quote, bracket or brace. -/
def isFlat (c : Char) : Bool :=
  c != '"' && c != '[' && c != ']' && c != '{' && c != '}'

theorem deepest_flat_cons {c : Char} (h : isFlat c = true) (depth : Nat) (cs : List Char) :
    deepest depth (c :: cs) = deepest depth cs := by
  simp only [isFlat, Bool.and_eq_true, bne_iff_ne] at h
  obtain ⟨⟨⟨⟨_, _⟩, _⟩, _⟩, _⟩ := h
  simp [deepest]

theorem deepest_flat {flat : List Char} (h : ∀ c ∈ flat, isFlat c = true) (depth : Nat)
    (cs : List Char) : deepest depth (flat ++ cs) = deepest depth cs := by
  induction flat with
  | nil => rfl
  | cons c rest ih =>
    rw [List.cons_append, deepest_flat_cons (h c List.mem_cons_self),
      ih fun d hd => h d (List.mem_cons_of_mem c hd)]

theorem deepest_newline (depth level : Nat) (cs : List Char) :
    deepest depth (newline level ++ cs) = deepest depth cs := by
  refine deepest_flat (fun c hc => ?_) depth cs
  rw [newline, List.mem_cons, List.mem_replicate] at hc
  obtain rfl | ⟨_, rfl⟩ := hc <;> rfl

/-- No digit ends a literal or starts an escape. -/
theorem hexDigit_ne : ∀ n < 16, hexDigit n ≠ '"' ∧ hexDigit n ≠ '\\' := by
  decide

theorem deepestBehindLiteral_escapeChar (c : Char) (depth : Nat) (cs : List Char) :
    deepestBehindLiteral depth (escapeChar c ++ cs) = deepestBehindLiteral depth cs := by
  unfold escapeChar
  split_ifs with h₁ h₂ h₃ h₄ h₅ h₆ h₇ hcontrol
  iterate 7 · simp [deepestBehindLiteral]
  · have hlt := toNat_lt_of_lt_space hcontrol
    have hhigh := hexDigit_ne (c.toNat / 16) (by omega)
    have hlow := hexDigit_ne (c.toNat % 16) (by omega)
    simp [deepestBehindLiteral, hhigh, hlow]
  · simp [deepestBehindLiteral, h₂]

theorem deepest_literal (s : String) (depth : Nat) (cs : List Char) :
    deepest depth (literal s ++ cs) = deepest depth cs := by
  rw [literal_append, deepest]
  induction s.toList with
  | nil => rw [List.flatMap_nil, List.nil_append, deepestBehindLiteral]
  | cons c rest ih =>
    rw [List.flatMap_cons, List.append_assoc, deepestBehindLiteral_escapeChar, ih]

/-! ## Printed values -/

/-- What is printed for a value nests as deeply as the value, wherever it stands. -/
def NestsAsPrinted (v : Json) : Prop :=
  ∀ level depth cs,
    deepest depth (prettyChars level v ++ cs) = max (depth + v.levels) (deepest depth cs)

theorem deepest_prettyItems {items : List Json} (h : ∀ v ∈ items, NestsAsPrinted v)
    (level depth : Nat) (cs : List Char) :
    deepest depth (prettyItems level items ++ cs) =
      max (depth + levelsOfItems items) (deepest depth cs) := by
  induction items with
  | nil =>
    have := le_deepest depth cs
    simp only [prettyItems, List.nil_append, levelsOfItems]
    omega
  | cons item rest ih =>
    have hitem : NestsAsPrinted item := h _ List.mem_cons_self
    have hrest := ih fun v hv => h v (List.mem_cons_of_mem item hv)
    simp only [prettyItems, List.cons_append, List.append_assoc, levelsOfItems]
    rw [deepest_flat_cons rfl, deepest_newline, hitem, hrest]
    omega

theorem deepest_prettyMembers {members : List (String × Json)}
    (h : ∀ m ∈ members, NestsAsPrinted m.2) (level depth : Nat) (cs : List Char) :
    deepest depth (prettyMembers level members ++ cs) =
      max (depth + levelsOfMembers members) (deepest depth cs) := by
  induction members with
  | nil =>
    have := le_deepest depth cs
    simp only [prettyMembers, List.nil_append, levelsOfMembers]
    omega
  | cons m rest ih =>
    obtain ⟨name, v⟩ := m
    have hvalue : NestsAsPrinted v := h _ List.mem_cons_self
    have hrest := ih fun m hm => h m (List.mem_cons_of_mem (name, v) hm)
    simp only [prettyMembers, List.cons_append, List.append_assoc, List.nil_append,
      levelsOfMembers]
    rw [deepest_flat_cons rfl, deepest_newline, deepest_literal, deepest_flat_cons rfl,
      deepest_flat_cons rfl, hvalue, hrest]
    omega

theorem Textual.nestsAsPrinted {v : Json} (h : Textual v) : NestsAsPrinted v := by
  induction h with
  | null =>
    intro level depth cs
    have := le_deepest depth cs
    simp [prettyChars, deepest, levels, this]
  | bool b =>
    intro level depth cs
    have := le_deepest depth cs
    cases b <;> simp [prettyChars, deepest, levels, this]
  | string s =>
    intro level depth cs
    have := le_deepest depth cs
    simp [prettyChars, deepest_literal, levels, this]
  | @array items _ ih =>
    intro level depth cs
    cases items with
    | nil => simp [prettyChars, deepest, levels, levelsOfItems]
    | cons item rest =>
      have hitem : NestsAsPrinted item := ih _ List.mem_cons_self
      have hrest := deepest_prettyItems (fun v hv => ih v (List.mem_cons_of_mem item hv))
      simp only [prettyChars, List.cons_append, List.append_assoc, List.nil_append, levels,
        levelsOfItems]
      rw [deepest, deepest_newline, hitem, hrest, deepest_newline, deepest, Nat.add_sub_cancel]
      omega
  | @object members _ ih =>
    intro level depth cs
    cases members with
    | nil => simp [prettyChars, deepest, levels, levelsOfMembers]
    | cons m rest =>
      obtain ⟨name, v⟩ := m
      have hvalue : NestsAsPrinted v := ih _ List.mem_cons_self
      have hrest := deepest_prettyMembers (fun m hm => ih m (List.mem_cons_of_mem (name, v) hm))
      simp only [prettyChars, List.cons_append, List.append_assoc, List.nil_append, levels,
        levelsOfMembers]
      rw [deepest, deepest_newline, deepest_literal, deepest_flat_cons rfl, deepest_flat_cons rfl,
        hvalue, hrest, deepest_newline, deepest, Nat.add_sub_cancel]
      omega

/-- The text that is printed for a textual value nests as deeply as the value. -/
theorem Textual.nesting_pretty {v : Json} (h : Textual v) : nesting v.pretty = v.levels := by
  have hchars := h.nestsAsPrinted 0 0 []
  rw [List.append_nil, deepest] at hchars
  rw [nesting, pretty, String.toList_ofList, hchars]
  omega

/-- A decoder answers for the text of a textual value as for the value, if the text nests within
the limit. -/
theorem Textual.decodeText_pretty {α : Type} {v : Json} (h : Textual v)
    (hnesting : nesting v.pretty ≤ nestingLimit) {decode : Json → Except Fault α} {a : α}
    (hdecode : decode v = .ok a) : decodeText decode v.pretty = .ok a := by
  rw [h.nesting_pretty] at hnesting
  simp [decodeText, h.read_pretty hnesting, hdecode]

/-! ## Texts of any depth -/

/-- The value of a text, however deeply it is nested: there is room for as many levels as the text
has characters. -/
def valueOf (text : String) : Json :=
  (readValue (2 * text.toList.length + 2) text.toList.length text.toList).1

/-- What is printed for a textual value is read as this value. -/
theorem Textual.valueOf_pretty {v : Json} (h : Textual v) : valueOf v.pretty = v := by
  have hchars : v.pretty.toList = prettyChars 0 v := String.toList_ofList
  have hlevels : v.levels ≤ (prettyChars 0 v).length := by
    have hle := deepest_le 0 (prettyChars 0 v)
    rw [← h.nesting_pretty, nesting, hchars]
    omega
  have hread : ReadsBack (prettyChars 0 v).length 0 v := h.readsBack hlevels
  have hvalue := hread (2 * (prettyChars 0 v).length + 2) [] (Nat.le_add_right _ 2)
  rw [List.append_nil] at hvalue
  rw [valueOf, hchars, hvalue]

/-- A line break behind a printed value is passed over. -/
theorem Textual.read_pretty_newline {v : Json} (h : Textual v) (hlevels : v.levels ≤ nestingLimit) :
    read (v.pretty ++ "\n") = (v, true) := by
  have hread : ReadsBack nestingLimit 0 v := h.readsBack hlevels
  have hchars : (v.pretty ++ "\n").toList = prettyChars 0 v ++ ['\n'] := by simp [pretty]
  have hvalue := hread (2 * (prettyChars 0 v ++ ['\n']).length + 2) ['\n'] (by simp; omega)
  rw [read, readChars, hchars, hvalue]
  rfl

end ConstructSchema.Json
