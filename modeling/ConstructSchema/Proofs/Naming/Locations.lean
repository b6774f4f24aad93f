import ConstructSchema.Naming.Bindings
import ConstructSchema.Proofs.Text.Replace

/-!
Services of different names have different locations.

A rule that puts a character in where another one stood can be read backwards as long as the name
does not hold that character itself. The rule for Java is two rules one after the other, and the
second works on what the first one wrote: a mark at the first place where the name holds it becomes
a word and a dot, and then the first dash becomes a dot. The dots cut the result into parts, and a
part that ends in the word shows where the mark was, so the name can be read back from its parts
(`JavaParts`, `JavaParts.nameOf_eq`). Go takes a dash away; there only names that agree up to their
first dash can be told apart (`location_ne`).
-/

namespace ConstructSchema

/-! ## Parts of a location in Java -/

/-- The parts, between dots, that a name becomes. The dash that is replaced may be in front of the
mark or behind it. -/
inductive JavaParts (mark word : List Char) : List Char → List (List Char) → Prop
  | whole (p : List Char) : JavaParts mark word p [p]
  | dashed (p q : List Char) : JavaParts mark word (p ++ '-' :: q) [p, q]
  | marked (p q : List Char) : JavaParts mark word (p ++ mark ++ q) [p ++ word, q]
  | dashedMarked (p q r : List Char) :
    JavaParts mark word (p ++ '-' :: (q ++ mark ++ r)) [p, q ++ word, r]
  | markedDashed (p q r : List Char) :
    JavaParts mark word (p ++ mark ++ (q ++ '-' :: r)) [p ++ word, q, r]

namespace JavaParts

variable {mark word s : List Char} {parts : List (List Char)}

/-- The part of a name in front of the word at its end. -/
def withoutWord (word p : List Char) : List Char :=
  p.take (p.length - word.length)

@[simp] theorem withoutWord_append (p : List Char) : withoutWord word (p ++ word) = p := by
  simp [withoutWord]

/-- The name read back from its parts: the first part that ends in the word was in front of the
mark. -/
def nameOf (mark word : List Char) : List (List Char) → List Char
  | [p] => p
  | [p, q] => if word <:+ p then withoutWord word p ++ mark ++ q else p ++ '-' :: q
  | [p, q, r] =>
    if word <:+ p then withoutWord word p ++ mark ++ (q ++ '-' :: r)
    else p ++ '-' :: (withoutWord word q ++ mark ++ r)
  | _ => []

/-- A name without the word is read back. -/
theorem nameOf_eq (h : JavaParts mark word s parts) (hword : ¬ word <:+: s) :
    nameOf mark word parts = s := by
  -- A part in front of a dash is in the name, so it does not end in the word.
  have hfront : ∀ p q, s = p ++ '-' :: q → ¬ word <:+ p := by
    rintro p q rfl hsuffix
    exact hword (hsuffix.isInfix.trans (List.prefix_append p _).isInfix)
  cases h with
  | whole p => rfl
  | dashed p q => simp [nameOf, hfront p q rfl]
  | marked p q => simp [nameOf]
  | dashedMarked p q r => simp [nameOf, hfront p _ rfl]
  | markedDashed p q r => simp [nameOf]

theorem ne_nil (h : JavaParts mark word s parts) : parts ≠ [] := by
  cases h <;> exact List.cons_ne_nil _ _

/-- Where the word holds no dot, the dots of the parts are those of the name. -/
theorem not_mem (h : JavaParts mark word s parts) (hword : '.' ∉ word) (hs : '.' ∉ s) :
    ∀ part ∈ parts, '.' ∉ part := by
  cases h <;> simp_all

/-- Both rules, one after the other, put dots between the parts of the name. -/
theorem exists_of_replace (hword : '-' ∉ word) (s : List Char) :
    ∃ parts, JavaParts mark word s parts ∧
      Text.replaceFirstChars ['-'] ['.'] (Text.replaceFirstChars mark (word ++ ['.']) s) =
        ['.'].intercalate parts := by
  rcases Text.replaceFirstChars_eq_self_or mark (word ++ ['.']) s with
    hplain | ⟨p, q, rfl, hmarked⟩
  · rw [hplain]
    rcases Text.replaceFirstChars_singleton_eq_self_or '-' '.' s with hself | ⟨p, q, rfl, hdashed⟩
    · exact ⟨[s], .whole s, by simp [hself, List.intercalate]⟩
    · exact ⟨[p, q], .dashed p q, by simp [hdashed, List.intercalate]⟩
  · rw [hmarked]
    by_cases hp : '-' ∈ p
    · -- The dash is in front of the mark.
      rw [List.append_assoc p (word ++ ['.']), Text.replaceFirstChars_append_of_mem hp]
      rcases Text.replaceFirstChars_singleton_eq_self_or '-' '.' p with hself | ⟨p, r, rfl, hdashed⟩
      · exact ⟨[p ++ word, q], .marked p q, by simp [hself, List.intercalate]⟩
      · exact ⟨[p, r ++ word, q], by simpa using dashedMarked p r q,
          by simp [hdashed, List.intercalate]⟩
    · -- It is behind the mark, if there is one.
      have hfront : '-' ∉ p ++ (word ++ ['.']) := by simp [hp, hword]
      rw [Text.replaceFirstChars_append_of_not_mem hfront]
      rcases Text.replaceFirstChars_singleton_eq_self_or '-' '.' q with hself | ⟨q, r, rfl, hdashed⟩
      · exact ⟨[p ++ word, q], .marked p q, by simp [hself, List.intercalate]⟩
      · exact ⟨[p ++ word, q, r], .markedDashed p q r, by simp [hdashed, List.intercalate]⟩

/-- Names without dots and without the word are told apart by the two rules. -/
theorem eq_of_replace_eq (hdash : '-' ∉ word) (hdot : '.' ∉ word)
    {t : List Char} (hs : '.' ∉ s) (ht : '.' ∉ t) (hs' : ¬ word <:+: s) (ht' : ¬ word <:+: t)
    (h : Text.replaceFirstChars ['-'] ['.'] (Text.replaceFirstChars mark (word ++ ['.']) s) =
      Text.replaceFirstChars ['-'] ['.'] (Text.replaceFirstChars mark (word ++ ['.']) t)) :
    s = t := by
  obtain ⟨parts, hparts, hjoined⟩ := exists_of_replace hdash s
  obtain ⟨parts', hparts', hjoined'⟩ := exists_of_replace hdash t
  have heq : parts = parts' := by
    rw [← List.splitOn_intercalate '.' (hparts.not_mem hdot hs) hparts.ne_nil, ← hjoined, h,
      hjoined', List.splitOn_intercalate '.' (hparts'.not_mem hdot ht) hparts'.ne_nil]
  rw [← hparts.nameOf_eq hs', heq, hparts'.nameOf_eq ht']

end JavaParts

/-! ## Locations -/

/-- The name holds nothing that a rule for locations puts in. -/
structure Service.HasPlainName (s : Service) : Prop where
  no_dot : '.' ∉ s.name.toList
  no_underscore : '_' ∉ s.name.toList
  no_services : ¬ "services".toList <:+: s.name.toList

namespace Conventions

variable (c : Conventions) {s t : Service}

/-- In one language two locations differ by their segments. -/
theorem location_eq_iff (l : Language) :
    c.location s l = c.location t l ↔ c.segment s l = c.segment t l := by
  rw [location, location, String.append_right_inj]

theorem name_eq_of_segment_python (hs : s.HasPlainName) (ht : t.HasPlainName)
    (h : c.segment s .python = c.segment t .python) : s.name = t.name := by
  have hchars := String.ofList_injective h
  exact String.toList_inj.1
    (Text.eq_of_replaceFirstChars_eq hs.no_underscore ht.no_underscore hchars)

theorem name_eq_of_segment_java (hs : s.HasPlainName) (ht : t.HasPlainName)
    (h : c.segment s .java = c.segment t .java) : s.name = t.name := by
  have hchars := String.ofList_injective h
  simp only [Text.replaceFirst, String.toList_ofList] at hchars
  exact String.toList_inj.1 (JavaParts.eq_of_replace_eq (by decide) (by decide)
    hs.no_dot ht.no_dot hs.no_services ht.no_services hchars)

/-- Names that start alike up to their first dash. -/
theorem name_eq_of_segment_golang {start a b : String} (hstart : '-' ∉ start.toList)
    (hs : s.name = start ++ "-" ++ a) (ht : t.name = start ++ "-" ++ b)
    (h : c.segment s .golang = c.segment t .golang) : s.name = t.name := by
  have hrest : ∀ rest, Text.replaceFirst (start ++ "-" ++ rest) "-" "" = start ++ rest := by
    intro rest
    have hdash : "-".toList = ['-'] := by decide
    have hremoved : Text.replaceFirst "-" "-" "" = "" := by decide
    rw [String.append_assoc, Text.replaceFirst_append_of_not_mem hdash hstart,
      Text.replaceFirst_append_of_mem hdash (by decide), hremoved, String.empty_append]
  have hsegments : Text.replaceFirst s.name "-" "" = Text.replaceFirst t.name "-" "" := h
  rw [hs, ht, hrest, hrest, String.append_right_inj] at hsegments
  rw [hs, ht, hsegments]

/-- **Services of different plain names have different locations.** In TypeScript, Python and Java
always, and in Go where the names start alike up to their first dash. -/
theorem location_ne (hs : s.HasPlainName) (ht : t.HasPlainName) (hne : s.name ≠ t.name) :
    c.location s .typescript ≠ c.location t .typescript ∧
    c.location s .python ≠ c.location t .python ∧
    c.location s .java ≠ c.location t .java ∧
    ((∃ start a b, '-' ∉ start.toList ∧ s.name = start ++ "-" ++ a ∧ t.name = start ++ "-" ++ b) →
      c.location s .golang ≠ c.location t .golang) := by
  simp only [ne_eq, location_eq_iff]
  refine ⟨hne, fun h => hne (c.name_eq_of_segment_python hs ht h),
    fun h => hne (c.name_eq_of_segment_java hs ht h), ?_⟩
  rintro ⟨start, a, b, hstart, ha, hb⟩ h
  exact hne (c.name_eq_of_segment_golang hstart ha hb h)

/-- Two services whose names differ in a dash behind the first one. -/
theorem location_ne_iotEvents :
    let c : Conventions := {}
    let s : Service := ⟨"", "aws-iot-events", "", "", ""⟩
    let t : Service := ⟨"", "aws-iotevents", "", "", ""⟩
    (s.HasPlainName ∧ t.HasPlainName ∧ s.name ≠ t.name) ∧
    c.location s .typescript ≠ c.location t .typescript ∧
    c.location s .python ≠ c.location t .python ∧
    c.location s .java ≠ c.location t .java ∧
    c.location s .golang ≠ c.location t .golang := by
  intro c s t
  have hs : s.HasPlainName := ⟨by decide, by decide, by decide +kernel⟩
  have ht : t.HasPlainName := ⟨by decide, by decide, by decide +kernel⟩
  have hne : s.name ≠ t.name := by decide
  obtain ⟨htypescript, hpython, hjava, hgolang⟩ := location_ne c hs ht hne
  exact ⟨⟨hs, ht, hne⟩, htypescript, hpython, hjava,
    hgolang ⟨"aws", "iot-events", "iotevents", by decide, by decide, by decide⟩⟩

/-- The word that the rule for Java puts in must not be in a name. -/
example :
    location {} ⟨"", "aws-iot", "", "", ""⟩ .java =
      location {} ⟨"", "services-iot", "", "", ""⟩ .java := by
  decide +kernel

end Conventions

end ConstructSchema
