import ConstructSchema.Json.Print
import ConstructSchema.Proofs.Json.Levels
import Mathlib.Data.List.DropRight

/-!
What `Json.pretty` prints, `Json.read` reads.

The printer and the reader meet at three places, one after the other: a character in a string
literal (`readPieces_escapeChar`), a literal (`readLiteral_literal`), and a value
(`readValue_prettyChars`). Each says that what was printed is read and that what follows is left,
so the text of a value can be taken apart from the front.
-/

namespace ConstructSchema.Json

/-! ## String literals -/

/-- The part of a string literal that stands for a character. -/
def pieceOf (c : Char) : Piece :=
  if c ∈ ['"', '\\', '\x08', '\x0c', '\n', '\r', '\t'] ∨ ¬c < ' ' then .char c else .unit c.toNat

theorem toNat_lt_of_lt_space {c : Char} (h : c < ' ') : c.toNat < 32 := by
  rw [Char.lt_def, UInt32.lt_iff_toNat_lt] at h
  exact h

/-- The digits that are printed for a control character make its number. -/
theorem unit?_hexDigit :
    ∀ n < 32, unit? '0' '0' (hexDigit (n / 16)) (hexDigit (n % 16)) = some n := by
  decide

/-- One character, as it was printed, is one part of a literal. -/
theorem readPieces_escapeChar (c : Char) (cs : List Char) :
    readPieces (escapeChar c ++ cs) =
      (readPieces cs).map fun (pieces, after) => (pieceOf c :: pieces, after) := by
  unfold escapeChar
  split_ifs with h₁ h₂ h₃ h₄ h₅ h₆ h₇ hcontrol
  -- The seven characters that have an escape of their own.
  iterate 7 · subst c; simp [readPieces, escapedChar?, pieceOf]
  · have hunit := unit?_hexDigit c.toNat (toNat_lt_of_lt_space hcontrol)
    simp [readPieces, pieceOf, *]
  · simp [readPieces, pieceOf, *]

theorem add_pieceOf (c : Char) (l : Literal) : Literal.add (pieceOf c) l = l.cons c := by
  unfold pieceOf
  split_ifs with h
  · rfl
  · have hcontrol : c.toNat < 32 := toNat_lt_of_lt_space (by simpa using (not_or.1 h).2)
    have hhigh : isHighSurrogate c.toNat = false := by
      simp only [isHighSurrogate, Bool.and_eq_false_iff, decide_eq_false_iff_not]
      omega
    have hlow : isLowSurrogate c.toNat = false := by
      simp only [isLowSurrogate, Bool.and_eq_false_iff, decide_eq_false_iff_not]
      omega
    simp [Literal.add, hhigh, hlow]

theorem readPieces_flatMap_escapeChar (s cs : List Char) :
    readPieces (s.flatMap escapeChar ++ '"' :: cs) = some (s.map pieceOf, cs) := by
  induction s with
  | nil => rfl
  | cons c rest ih =>
    rw [List.flatMap_cons, List.append_assoc, readPieces_escapeChar, ih]
    rfl

theorem foldr_add_map_pieceOf (s : List Char) :
    (s.map pieceOf).foldr Literal.add ⟨[], true, none⟩ = ⟨s, true, none⟩ := by
  induction s with
  | nil => rfl
  | cons c rest ih =>
    rw [List.map_cons, List.foldr_cons, ih, add_pieceOf]
    rfl

/-- A literal whose opening quote was read gives the text it was printed for. -/
theorem readLiteral_literal (s cs : List Char) :
    readLiteral (s.flatMap escapeChar ++ '"' :: cs) = some (⟨s, true, none⟩, cs) := by
  simp only [readLiteral, readPieces_flatMap_escapeChar, Option.map_some, Literal.ofPieces,
    foldr_add_map_pieceOf]
  rfl

/-! ## Blanks -/

@[simp] theorem skipBlanks_blank {c : Char} (h : isBlank c = true) (cs : List Char) :
    skipBlanks (c :: cs) = skipBlanks cs := by
  rw [skipBlanks, List.dropWhile_cons_of_pos h]
  rfl

@[simp] theorem skipBlanks_of_not_blank {c : Char} (h : isBlank c = false) (cs : List Char) :
    skipBlanks (c :: cs) = c :: cs := by
  rw [skipBlanks, List.dropWhile_cons_of_neg (by simp [h])]

@[simp] theorem skipBlanks_newline (level : Nat) (cs : List Char) :
    skipBlanks (newline level ++ cs) = skipBlanks cs := by
  have hspaces : ∀ n, skipBlanks (List.replicate n ' ' ++ cs) = skipBlanks cs := by
    intro n
    induction n with
    | zero => rfl
    | succ n ih => rw [List.replicate_succ, List.cons_append, skipBlanks_blank rfl, ih]
  rw [newline, List.cons_append, skipBlanks_blank rfl, hspaces]

@[simp] theorem skipBlanks_skipBlanks (cs : List Char) :
    skipBlanks (skipBlanks cs) = skipBlanks cs :=
  List.dropWhile_idempotent isBlank cs

/-- Blanks in front of a value do not count. -/
theorem readValue_skipBlanks (fuel room : Nat) (cs : List Char) :
    readValue fuel room (skipBlanks cs) = readValue fuel room cs := by
  cases fuel with
  | zero => rfl
  | succ fuel => rw [readValue, readValue, skipBlanks_skipBlanks]

theorem readValue_newline (fuel room level : Nat) (cs : List Char) :
    readValue fuel room (newline level ++ cs) = readValue fuel room cs := by
  rw [← readValue_skipBlanks, skipBlanks_newline, readValue_skipBlanks]

theorem readValue_space (fuel room : Nat) (cs : List Char) :
    readValue fuel room (' ' :: cs) = readValue fuel room cs := by
  rw [← readValue_skipBlanks, skipBlanks_blank rfl, readValue_skipBlanks]

/-! ## Values -/

/-- A value that is made of null, truth values and texts. -/
inductive Textual : Json → Prop
  | null : Textual .null
  | bool (b : Bool) : Textual (.bool b)
  | string (s : String) : Textual (.string s)
  | array {items : List Json} (h : ∀ item ∈ items, Textual item) : Textual (.array items)
  | object {members : List (String × Json)} (h : ∀ m ∈ members, Textual m.2) :
    Textual (.object members)

theorem Textual.ofTable {α : Type} {encode : α → Json} (h : ∀ a, Textual (encode a))
    (t : Table α) : Textual (.ofTable encode t) := by
  refine .object fun m hm => ?_
  obtain ⟨e, _, rfl⟩ := List.mem_map.1 hm
  exact h e.2

theorem Textual.arrayOf {α : Type} {encode : α → Json} {as : List α}
    (h : ∀ a ∈ as, Textual (encode a)) : Textual (.array (as.map encode)) :=
  .array (List.forall_mem_map.2 h)

/-- What is printed for a value starts with no blank and closes no array. -/
theorem Textual.exists_cons {v : Json} (h : Textual v) (level : Nat) :
    ∃ c cs, prettyChars level v = c :: cs ∧ isBlank c = false ∧ c ≠ ']' := by
  cases h with
  | null => exact ⟨_, _, by rw [prettyChars], rfl, by decide⟩
  | bool b => cases b <;> exact ⟨_, _, by rw [prettyChars], rfl, by decide⟩
  | string s => exact ⟨_, _, by rw [prettyChars, literal], rfl, by decide⟩
  | @array items _ => cases items <;> exact ⟨_, _, rfl, rfl, by decide⟩
  | @object members _ => cases members <;> exact ⟨_, _, rfl, rfl, by decide⟩

theorem literal_append (s : String) (cs : List Char) :
    literal s ++ cs = '"' :: (s.toList.flatMap escapeChar ++ '"' :: cs) := by
  simp [literal]

section

variable {fuel room level outer : Nat} {cs rest more : List Char} {v : Json}

/-! ### One step of the reader -/

theorem readValue_literal (s : String) :
    readValue (fuel + 1) room (literal s ++ rest) = (.string s, some rest) := by
  rw [literal_append, readValue, skipBlanks_of_not_blank rfl]
  simp [readLiteral_literal, inertUnless]

theorem readItems_of_comma (hvalue : readValue fuel room cs = (v, some rest))
    (hrest : skipBlanks rest = ',' :: more) :
    readItems (fuel + 1) room cs =
      (v :: (readItems fuel room more).1, (readItems fuel room more).2) := by
  simp [readItems, hvalue, hrest]

theorem readItems_of_bracket (hvalue : readValue fuel room cs = (v, some rest))
    (hrest : skipBlanks rest = ']' :: more) :
    readItems (fuel + 1) room cs = ([v], some more) := by
  simp [readItems, hvalue, hrest]

theorem readMembers_of_comma {name : String} (hvalue : readValue fuel room cs = (v, some rest))
    (hrest : skipBlanks rest = ',' :: more) :
    readMembers (fuel + 1) room (newline level ++ (literal name ++ ':' :: ' ' :: cs)) =
      ((name, v) :: (readMembers fuel room more).1, (readMembers fuel room more).2) := by
  rw [readMembers, skipBlanks_newline, literal_append, skipBlanks_of_not_blank rfl]
  simp [readLiteral_literal, skipBlanks_of_not_blank, isBlank, readValue_space, hvalue, hrest,
    memberOf]

theorem readMembers_of_brace {name : String} (hvalue : readValue fuel room cs = (v, some rest))
    (hrest : skipBlanks rest = '}' :: more) :
    readMembers (fuel + 1) room (newline level ++ (literal name ++ ':' :: ' ' :: cs)) =
      ([(name, v)], some more) := by
  rw [readMembers, skipBlanks_newline, literal_append, skipBlanks_of_not_blank rfl]
  simp [readLiteral_literal, skipBlanks_of_not_blank, isBlank, readValue_space, hvalue, hrest,
    memberOf]

theorem readValue_array {items : List Json} (hroom : 0 < room)
    (hcs : ∀ more, skipBlanks cs ≠ ']' :: more)
    (hitems : readItems fuel (room - 1) cs = (items, some rest)) :
    readValue (fuel + 1) room ('[' :: cs) = (.array items, some rest) := by
  simp [readValue, skipBlanks_of_not_blank, isBlank, inertUnless, hroom, hitems]

theorem readValue_object {members : List (String × Json)} (hroom : 0 < room)
    (hcs : ∀ more, skipBlanks cs ≠ '}' :: more)
    (hmembers : readMembers fuel (room - 1) cs = (members, some rest)) :
    readValue (fuel + 1) room ('{' :: cs) = (.object members, some rest) := by
  simp [readValue, skipBlanks_of_not_blank, isBlank, inertUnless, hroom, hmembers]

/-! ### Whole values -/

/-- The value is read wherever it was printed with this indentation, given enough fuel. -/
def ReadsBack (room level : Nat) (v : Json) : Prop :=
  ∀ fuel rest, 2 * (prettyChars level v).length ≤ fuel →
    readValue fuel room (prettyChars level v ++ rest) = (v, some rest)

/-- Items that are read where they were printed are read together. -/
theorem readItems_pretty {item : Json} {items : List Json}
    (hread : ∀ v ∈ item :: items, ReadsBack room level v)
    (hfuel : 2 * (prettyChars level item ++ prettyItems level items).length < fuel) :
    readItems fuel room (newline level ++ (prettyChars level item ++
      (prettyItems level items ++ (newline outer ++ ']' :: rest)))) =
        (item :: items, some rest) := by
  rw [List.length_append] at hfuel
  induction items generalizing item fuel with
  | nil =>
    obtain ⟨fuel, rfl⟩ : ∃ n, fuel = n + 1 := ⟨fuel - 1, by omega⟩
    have hitem := hread item List.mem_cons_self fuel (newline outer ++ ']' :: rest) (by omega)
    rw [← readValue_newline _ _ level] at hitem
    refine readItems_of_bracket hitem ?_
    rw [skipBlanks_newline, skipBlanks_of_not_blank rfl]
  | cons second items ih =>
    obtain ⟨fuel, rfl⟩ : ∃ n, fuel = n + 1 := ⟨fuel - 1, by omega⟩
    simp only [prettyItems, List.length_cons, List.length_append] at hfuel
    -- The comma in front of the other items pays for the step to them.
    have hless : 2 * ((prettyChars level second).length + (prettyItems level items).length) <
        fuel := by omega
    have hrest := ih (fun v hv => hread v (List.mem_cons_of_mem item hv)) hless
    have hitem := hread item List.mem_cons_self fuel (prettyItems level (second :: items) ++
      (newline outer ++ ']' :: rest)) (by omega)
    rw [← readValue_newline _ _ level] at hitem
    have hcomma : skipBlanks (prettyItems level (second :: items) ++
        (newline outer ++ ']' :: rest)) = ',' :: (newline level ++ (prettyChars level second ++
          (prettyItems level items ++ (newline outer ++ ']' :: rest)))) := by
      simp [prettyItems, skipBlanks_of_not_blank, isBlank]
    rw [readItems_of_comma hitem hcomma, hrest]

/-- Members whose values are read where they were printed are read together. -/
theorem readMembers_pretty {name : String} {members : List (String × Json)}
    (hread : ∀ m ∈ (name, v) :: members, ReadsBack room level m.2)
    (hfuel : 2 * (prettyChars level v ++ prettyMembers level members).length < fuel) :
    readMembers fuel room (newline level ++ (literal name ++ ':' :: ' ' :: (prettyChars level v ++
      (prettyMembers level members ++ (newline outer ++ '}' :: rest))))) =
        ((name, v) :: members, some rest) := by
  rw [List.length_append] at hfuel
  induction members generalizing name v fuel with
  | nil =>
    obtain ⟨fuel, rfl⟩ : ∃ n, fuel = n + 1 := ⟨fuel - 1, by omega⟩
    have hvalue : ReadsBack room level v := hread _ List.mem_cons_self
    refine readMembers_of_brace (hvalue fuel (newline outer ++ '}' :: rest) (by omega)) ?_
    rw [skipBlanks_newline, skipBlanks_of_not_blank rfl]
  | cons second members ih =>
    obtain ⟨fuel, rfl⟩ : ∃ n, fuel = n + 1 := ⟨fuel - 1, by omega⟩
    obtain ⟨other, w⟩ := second
    simp only [prettyMembers, List.length_cons, List.length_append] at hfuel
    have hless : 2 * ((prettyChars level w).length + (prettyMembers level members).length) <
        fuel := by omega
    have hrest := ih (fun m hm => hread m (List.mem_cons_of_mem (name, v) hm)) hless
    have hvalue : ReadsBack room level v := hread _ List.mem_cons_self
    have hfirst := hvalue fuel (prettyMembers level ((other, w) :: members) ++
      (newline outer ++ '}' :: rest)) (by omega)
    have hcomma : skipBlanks (prettyMembers level ((other, w) :: members) ++
        (newline outer ++ '}' :: rest)) = ',' :: (newline level ++ (literal other ++ ':' :: ' ' ::
          (prettyChars level w ++ (prettyMembers level members ++
            (newline outer ++ '}' :: rest))))) := by
      simp [prettyMembers, skipBlanks_of_not_blank, isBlank]
    rw [readMembers_of_comma hfirst hcomma, hrest]

theorem Textual.exists_fuel (h : Textual v) (hfuel : 2 * (prettyChars level v).length ≤ fuel) :
    ∃ n, fuel = n + 1 := by
  obtain ⟨c, cs, hchars, _⟩ := h.exists_cons level
  rw [hchars, List.length_cons] at hfuel
  exact ⟨fuel - 1, by omega⟩

/-- A textual value is read where it was printed, if there is room for its levels. -/
theorem Textual.readsBack (h : Textual v) (hroom : v.levels ≤ room) : ReadsBack room level v := by
  -- The parts of an array or object have a level less, as the reader has room for a level less.
  induction h generalizing room level with
  | null =>
    intro fuel rest hfuel
    obtain ⟨fuel, rfl⟩ := Textual.null.exists_fuel hfuel
    simp [prettyChars, readValue, skipBlanks_of_not_blank, isBlank]
  | bool b =>
    intro fuel rest hfuel
    obtain ⟨fuel, rfl⟩ := (Textual.bool b).exists_fuel hfuel
    cases b <;> simp [prettyChars, readValue, skipBlanks_of_not_blank, isBlank]
  | string s =>
    intro fuel rest hfuel
    obtain ⟨fuel, rfl⟩ := (Textual.string s).exists_fuel hfuel
    rw [prettyChars, readValue_literal]
  | @array items hitems ih =>
    obtain ⟨hpos, hlevels⟩ := levels_array_le_iff.1 hroom
    intro fuel rest hfuel
    obtain ⟨fuel, rfl⟩ := (Textual.array hitems).exists_fuel hfuel
    cases items with
    | nil => simp [prettyChars, readValue, skipBlanks_of_not_blank, isBlank, inertUnless, hpos]
    | cons item items =>
      have hread : ∀ v ∈ item :: items, ReadsBack (room - 1) (level + 1) v := fun v hv =>
        ih v hv (Nat.le_sub_one_of_lt (hlevels v hv))
      have hless : 2 * (prettyChars (level + 1) item ++
          prettyItems (level + 1) items).length < fuel := by
        simp only [prettyChars, List.length_cons, List.length_append, List.length_nil] at hfuel ⊢
        omega
      obtain ⟨c, cs, hchars, hblank, hbracket⟩ := (hitems item List.mem_cons_self).exists_cons
        (level + 1)
      have happend : prettyChars level (.array (item :: items)) ++ rest =
          '[' :: (newline (level + 1) ++ (prettyChars (level + 1) item ++
            (prettyItems (level + 1) items ++ (newline level ++ ']' :: rest)))) := by
        simp [prettyChars]
      rw [happend]
      refine readValue_array hpos ?_ (readItems_pretty hread hless)
      simp [hchars, skipBlanks_of_not_blank hblank, hbracket]
  | @object members hmembers ih =>
    obtain ⟨hpos, hlevels⟩ := levels_object_le_iff.1 hroom
    intro fuel rest hfuel
    obtain ⟨fuel, rfl⟩ := (Textual.object hmembers).exists_fuel hfuel
    cases members with
    | nil => simp [prettyChars, readValue, skipBlanks_of_not_blank, isBlank, inertUnless, hpos]
    | cons first members =>
      obtain ⟨name, v⟩ := first
      have hread : ∀ m ∈ (name, v) :: members, ReadsBack (room - 1) (level + 1) m.2 := fun m hm =>
        ih m hm (Nat.le_sub_one_of_lt (hlevels m hm))
      have hless : 2 * (prettyChars (level + 1) v ++
          prettyMembers (level + 1) members).length < fuel := by
        simp only [prettyChars, List.length_cons, List.length_append, List.length_nil] at hfuel ⊢
        omega
      have happend : prettyChars level (.object ((name, v) :: members)) ++ rest =
          '{' :: (newline (level + 1) ++ (literal name ++ ':' :: ' ' ::
            (prettyChars (level + 1) v ++ (prettyMembers (level + 1) members ++
              (newline level ++ '}' :: rest))))) := by
        simp [prettyChars]
      rw [happend]
      refine readValue_object hpos ?_ (readMembers_pretty hread hless)
      simp [literal_append, skipBlanks_of_not_blank, isBlank]

end

/-- **Reading undoes printing**, for textual values within the limit. -/
theorem Textual.read_pretty {v : Json} (h : Textual v) (hlevels : v.levels ≤ nestingLimit) :
    read v.pretty = (v, true) := by
  have hread : ReadsBack nestingLimit 0 v := h.readsBack hlevels
  have hvalue := hread (2 * (prettyChars 0 v).length + 2) [] (Nat.le_add_right _ 2)
  rw [List.append_nil] at hvalue
  rw [read, pretty, String.toList_ofList, readChars, hvalue]
  rfl

end ConstructSchema.Json
