/-!
White space at the ends of a text.

`trim` removes the characters with the Unicode property White_Space from both ends and keeps the
inside as it is.
-/

namespace ConstructSchema.Text

/-- The code points with the property White_Space, as closed ranges. -/
def whiteSpaceRanges : List (Nat × Nat) :=
  [ (0x09, 0x0d), (0x20, 0x20), (0x85, 0x85), (0xa0, 0xa0), (0x1680, 0x1680), (0x2000, 0x200a),
    (0x2028, 0x2029), (0x202f, 0x202f), (0x205f, 0x205f), (0x3000, 0x3000) ]

/-- Membership of a code point in a list of closed ranges. -/
def inRanges (ranges : List (Nat × Nat)) (c : Char) : Bool :=
  ranges.any fun r => r.1 ≤ c.toNat && c.toNat ≤ r.2

/-- The property White_Space. -/
def isWhiteSpace (c : Char) : Bool :=
  inRanges whiteSpaceRanges c

/-- The characters left when white space is dropped in front and behind. -/
def trimChars (cs : List Char) : List Char :=
  ((cs.dropWhile isWhiteSpace).reverse.dropWhile isWhiteSpace).reverse

/-- The text without the white space in front and behind. -/
def trim (s : String) : String :=
  String.ofList (trimChars s.toList)

end ConstructSchema.Text
