/-!
Replacing every match of a pattern.

A pattern is a function that looks at a text from its first character on and says what the match
there is replaced by and how many further characters it takes. `replaceMatches` goes from the left,
replaces a match as soon as it meets one, and goes on behind it, so matches never overlap.
-/

namespace ConstructSchema.Text

/-- What a pattern found at the front of a text. -/
structure Match where
  /-- The characters written in place of the match. -/
  replacement : List Char
  /-- The number of characters of the match that follow its first one. -/
  further : Nat

/-- A pattern with its replacement, tried at the front of a text. -/
abbrev Pattern := List Char → Option Match

/-- The text with its leftmost matches that do not overlap replaced. -/
def replaceMatches (pattern : Pattern) : List Char → List Char
  | [] => []
  | c :: cs =>
    match pattern (c :: cs) with
    | none => c :: replaceMatches pattern cs
    | some found => found.replacement ++ replaceMatches pattern (cs.drop found.further)
termination_by cs => cs.length
decreasing_by
  · simp
  · simp only [List.length_drop, List.length_cons]; omega

end ConstructSchema.Text
