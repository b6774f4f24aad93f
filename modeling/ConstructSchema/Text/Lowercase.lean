import ConstructSchema.Text.Cased
import ConstructSchema.Text.LowerTable

/-!
Lower case of a text, by the full mapping of Unicode that depends on no language.

Three rules go beyond a character-by-character mapping of single characters: capital I with a dot
above becomes two characters, a capital sigma that ends a word becomes a final sigma, and every
other capital sigma a plain one.
-/

namespace ConstructSchema.Text

/-- Whether the first character that is not case-ignorable is there and is cased. -/
def meetsCased (cs : List Char) : Bool :=
  match cs.dropWhile isCaseIgnorable with
  | [] => false
  | c :: _ => isCased c

/-- A capital sigma ends a word if a cased character stands before it and none behind it, where
case-ignorable characters are passed over. `before` is read backwards. -/
def sigmaEndsWord (before behind : List Char) : Bool :=
  meetsCased before && !meetsCased behind

/-- The lower case of the character between `before`, read backwards, and `behind`. -/
def lowerCharIn (before : List Char) (c : Char) (behind : List Char) : List Char :=
  if c = 'Σ' then [if sigmaEndsWord before behind then 'ς' else 'σ']
  else if c = 'İ' then ['i', '\u0307']
  else [lowerChar c]

/-- The lower case of characters that follow `before`, which is read backwards. -/
def lowerCharsAfter (before : List Char) : List Char → List Char
  | [] => []
  | c :: cs => lowerCharIn before c cs ++ lowerCharsAfter (c :: before) cs

/-- The lower case of a text given as its characters. -/
def lowerChars (cs : List Char) : List Char :=
  lowerCharsAfter [] cs

/-- The lower case of a text. -/
def lowercase (s : String) : String :=
  String.ofList (lowerChars s.toList)

end ConstructSchema.Text
