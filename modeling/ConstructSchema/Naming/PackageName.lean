import ConstructSchema.Text.Lowercase
import ConstructSchema.Text.Pattern

/-!
Package names in snake case, from capitalized service names.

Two passes insert underscores: the first one before the last capital of a run of capitals that a
small letter follows, the second one between a small letter and a capital. Both know the letters of
ASCII only. At the end the whole name is lowered.
-/

namespace ConstructSchema.PackageName

/-- A capital of ASCII. -/
def isCapital (c : Char) : Bool := 'A' ≤ c && c ≤ 'Z'

/-- A small letter of ASCII. -/
def isSmall (c : Char) : Bool := 'a' ≤ c && c ≤ 'z'

/-- A capital and a small letter stand in front. -/
def startsWord : List Char → Bool
  | c :: d :: _ => isCapital c && isSmall d
  | _ => false

/-- The number of capitals in front that a capital and a small letter follow: the greatest such
number that is not zero. -/
def capitalsBeforeWord : List Char → Option Nat
  | [] => none
  | c :: cs =>
    if isCapital c then
      match capitalsBeforeWord cs with
      | some n => some (n + 1)
      | none => if startsWord cs then some 1 else none
    else none

/-- Capitals, then a capital and a small letter: an underscore goes between the two groups. -/
def acronymBoundary : Text.Pattern := fun cs =>
  match capitalsBeforeWord cs with
  | some n => some ⟨cs.take n ++ '_' :: (cs.drop n).take 2, n + 1⟩
  | none => none

/-- A small letter, then a capital: an underscore goes between them. -/
def wordBoundary : Text.Pattern
  | c :: d :: _ => if isSmall c && isCapital d then some ⟨[c, '_', d], 1⟩ else none
  | _ => none

/-- The package name of a capitalized service name, as characters. -/
def ofChars (cs : List Char) : List Char :=
  Text.lowerChars (Text.replaceMatches wordBoundary (Text.replaceMatches acronymBoundary cs))

/-- The package name of a capitalized service name. -/
def ofCapitalized (capitalized : String) : String :=
  String.ofList (ofChars capitalized.toList)

end ConstructSchema.PackageName
