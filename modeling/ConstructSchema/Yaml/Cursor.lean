/-!
A place in a YAML text: what follows it, with its line and column.

Line breaks are a line feed, a carriage return, both together, and three further breaks of Unicode;
a place behind the last character counts as the end of a line.

A text is read in blocks. A block with a character that no text may hold cannot be read, so the
text is cut there: a reader that needs a character behind the cut fails, but what stands before it
can be read.
-/

namespace ConstructSchema.Yaml

/-- A place in a text. -/
structure Cursor where
  /-- The characters from this place on. -/
  rest : List Char
  /-- The number of bytes before this place. -/
  offset : Nat := 0
  line : Nat := 0
  column : Nat := 0
  /-- The text goes on behind `rest`, but cannot be read there. -/
  cut : Bool := false

/-! ## Characters -/

/-- A space or a tab. -/
def isBlank (c : Char) : Bool := c == ' ' || c == '\t'

/-- A line break. -/
def isBreak (c : Char) : Bool :=
  c == '\n' || c == '\r' || c == '\u0085' || c == '\u2028' || c == '\u2029'

/-- The byte order mark. At the start of a line it does not count, elsewhere it is a character like
any other. -/
def byteOrderMark : Char := '\ufeff'

/-- A text may hold this character. -/
def isPermitted (c : Char) : Bool :=
  let n := c.toNat
  n == 0x9 || n == 0xa || n == 0xd || (0x20 ≤ n && n ≤ 0x7e) || n == 0x85 ||
    (0xa0 ≤ n && n ≤ 0xd7ff) || (0xe000 ≤ n && n ≤ 0xfffd) || (0x10000 ≤ n && n ≤ 0x10ffff)

/-- A character of the name of an anchor, of a handle or of a directive. -/
def isNameCharacter (c : Char) : Bool :=
  ('0' ≤ c && c ≤ '9') || ('A' ≤ c && c ≤ 'Z') || ('a' ≤ c && c ≤ 'z') || c == '_' || c == '-'

/-- A line ends here: a break follows or nothing. -/
def endsLine : List Char → Bool
  | [] => true
  | c :: _ => isBreak c

/-- A word ends here: a blank follows, a break or nothing. -/
def endsWord : List Char → Bool
  | [] => true
  | c :: _ => isBlank c || isBreak c

/-! ## Blocks -/

/-- The greatest number of bytes of a block. A character that does not fit into one is the first of
the next. -/
def blockSize : Nat := 16384

/-- The characters that can be read and whether the text is cut behind them. The characters of the
blocks before are `done` and those of the current block `block`, each with the last one first;
`room` more bytes fit into it. -/
def readableFrom (done block : List Char) (room : Nat) : List Char → List Char × Bool
  | [] => ((block ++ done).reverse, false)
  | c :: rest =>
    let (done, block, room) : List Char × List Char × Nat :=
      if c.utf8Size ≤ room then (done, block, room) else (block ++ done, [], blockSize)
    if isPermitted c then readableFrom done (c :: block) (room - c.utf8Size) rest
    else (done.reverse, true)

namespace Cursor

/-- The start of a text. -/
def ofText (text : String) : Cursor :=
  let (rest, cut) := readableFrom [] [] blockSize text.toList
  { rest, cut }

/-- The character at this place. -/
def head? (c : Cursor) : Option Char := c.rest.head?

/-- It can be known what the next `n` characters are, or that the text ends before. -/
def sees (c : Cursor) (n : Nat) : Bool :=
  !c.cut || (c.rest.take n).length == n

/-! ## Moving on -/

/-- The place behind several characters that are no line breaks. -/
def skipMany (c : Cursor) (n : Nat) : Cursor :=
  { c with
    rest := c.rest.drop n
    offset := (c.rest.take n).foldl (fun bytes ch => bytes + ch.utf8Size) c.offset
    column := c.column + n }

/-- The place behind a character that is no line break. -/
def skip (c : Cursor) : Cursor := c.skipMany 1

/-- The place at the start of the next line, from a line break on. -/
def skipBreak (c : Cursor) : Cursor :=
  match c.rest with
  | '\r' :: '\n' :: rest =>
    { c with rest, offset := c.offset + 2, line := c.line + 1, column := 0 }
  | b :: rest => { c with rest, offset := c.offset + b.utf8Size, line := c.line + 1, column := 0 }
  | [] => c

/-- What a line break adds to a text: a line feed, but the two breaks that Unicode adds between
lines and paragraphs stay what they are. At the end of the text it adds nothing. -/
def breakText (c : Cursor) : List Char :=
  match c.rest with
  | [] => []
  | b :: _ => if b == '\u2028' || b == '\u2029' then [b] else ['\n']

/-- The place behind the characters in front for which `p` holds. -/
def skipWhile (c : Cursor) (p : Char → Bool) : Cursor :=
  c.skipMany (c.rest.takeWhile p).length

/-- The place at the end of the line. -/
def skipLine (c : Cursor) : Cursor :=
  c.skipWhile fun ch => !isBreak ch

/-- The place at the start of the next line, if nothing but blanks and a comment is left of this
one. -/
def skipRemark (c : Cursor) : Option Cursor :=
  let c := c.skipWhile isBlank
  let c := if c.head? == some '#' then c.skipLine else c
  if endsLine c.rest && c.sees 2 then some c.skipBreak else none

/-- A mark that starts or ends a document stands at the start of this line. -/
def atDocumentMark (c : Cursor) : Bool :=
  c.column == 0 &&
    match c.rest with
    | '-' :: '-' :: '-' :: rest => endsWord rest
    | '.' :: '.' :: '.' :: rest => endsWord rest
    | _ => false

end Cursor

end ConstructSchema.Yaml
