import ConstructSchema.Yaml.Tag

/-!
The tokens of a YAML text.

Indentation becomes tokens of its own: a block collection starts where the column first exceeds the
indentation around it and ends where a later token stands left of it. A key is known as one only
when its colon is met, so each level of flow nesting remembers the last token that might be a key;
the colon puts the key token, and where needed the start of a block mapping, in front of it.

A byte order mark at the start of a line is passed over, but counts as a column.
-/

namespace ConstructSchema.Yaml

/-- A token of a YAML text. -/
inductive Token where
  | documentStart
  | documentEnd
  | streamEnd
  | blockSequenceStart
  | blockMappingStart
  | blockEnd
  | flowSequenceStart
  | flowSequenceEnd
  | flowMappingStart
  | flowMappingEnd
  | blockEntry
  | flowEntry
  | key
  | value
  | alias (name : String)
  | anchor (name : String)
  | tag (tag : Tag)
  | directive (directive : Directive)
  | scalar (text : String) (style : ScalarStyle)
  /-- The text cannot be read any further. -/
  | broken
  deriving DecidableEq, Repr, Inhabited

/-- A token that a colon may still turn into a key. -/
structure PossibleKey where
  /-- The number of tokens before it. -/
  position : Nat
  /-- Nothing but a key can stand here. -/
  required : Bool
  offset : Nat
  line : Nat
  column : Nat

/-- The tokens up to a place in the text, and what the next one depends on. -/
structure Scan where
  cursor : Cursor
  /-- More than the number of characters of the text, and so enough steps for a loop over them. -/
  size : Nat
  /-- The column of the innermost block collection; −1 outside all of them. -/
  indent : Int := -1
  /-- The columns of the collections around it. -/
  indents : List Int := []
  /-- A key may start here. -/
  keyAllowed : Bool := true
  /-- The last token outside of flow collections that was a possible key. -/
  blockKey : Option PossibleKey := none
  /-- The same for each level of flow nesting, the innermost first. -/
  flowKeys : List (Option PossibleKey) := []
  /-- The tokens so far, the last one first. -/
  tokens : List Token := []
  /-- The number of these tokens. -/
  count : Nat := 0
  /-- The last token is the end of the text. -/
  ended : Bool := false

namespace Scan

/-- The start of a text. -/
def start (text : String) : Scan :=
  let cursor := Cursor.ofText text
  { cursor, size := cursor.rest.length + 1 }

/-- The place is within a flow collection. -/
def inFlow (s : Scan) : Bool := !s.flowKeys.isEmpty

/-- The state with a token put behind the first `n` ones. -/
def insertAt (s : Scan) (n : Nat) (t : Token) : Scan :=
  let later := s.count - n
  { s with
    tokens := s.tokens.take later ++ t :: s.tokens.drop later
    count := s.count + 1 }

/-- The state with one more token. -/
def add (s : Scan) (t : Token) : Scan := s.insertAt s.count t

/-- The state with a token made of the next `n` characters. -/
def take (s : Scan) (n : Nat) (t : Token) : Scan :=
  { s.add t with cursor := s.cursor.skipMany n }

/-! ## Possible keys -/

/-- The greatest number of bytes between the start of a key and its colon. -/
def keyReach : Nat := 1024

/-- The colon of a key may still stand here. -/
def reaches (k : PossibleKey) (c : Cursor) : Bool :=
  k.line == c.line && c.offset ≤ k.offset + keyReach

/-- The possible key of this level, if its colon may stand here. -/
def key? (s : Scan) : Option PossibleKey :=
  let innermost := match s.flowKeys with
    | [] => s.blockKey
    | k :: _ => k
  innermost.filter fun k => reaches k s.cursor

/-- The state with another possible key of this level. -/
def setKey (s : Scan) (k : Option PossibleKey) : Scan :=
  match s.flowKeys with
  | [] => { s with blockKey := k }
  | _ :: outer => { s with flowKeys := k :: outer }

/-- The state itself; none if a token that had to be a key cannot become one. -/
def checkKey (s : Scan) : Option Scan :=
  if s.blockKey.any fun k => k.required && !reaches k s.cursor then none else some s

/-- The state with the possible key of this level given up; none if it was required. -/
def dropKey (s : Scan) : Option Scan :=
  if s.key?.any (·.required) then none else some (s.setKey none)

/-- The state in which the next token is the possible key of this level, if one may start here. -/
def saveKey (s : Scan) : Option Scan :=
  if s.keyAllowed then do
    let k : PossibleKey := {
      position := s.count
      required := !s.inFlow && s.indent == s.cursor.column
      offset := s.cursor.offset
      line := s.cursor.line
      column := s.cursor.column }
    return (← s.dropKey).setKey (some k)
  else some s

/-! ## Indentation -/

/-- The state in a block collection at `column`, which starts behind the first `position` tokens
if the indentation grows. -/
def enterBlock (s : Scan) (column : Nat) (position : Nat) (start : Token) : Scan :=
  if !s.inFlow && s.indent < column then
    { s.insertAt position start with indent := column, indents := s.indent :: s.indents }
  else s

/-- The state with every block collection ended that starts right of `column`, where the columns of
the outer ones are given. -/
def leaveBlocksFrom (column : Int) : List Int → Scan → Scan
  | [], s => s
  | outer :: indents, s =>
    if column < s.indent then
      leaveBlocksFrom column indents { s.add .blockEnd with indent := outer, indents }
    else s

/-- The state with every block collection ended that starts right of `column`. -/
def leaveBlocks (s : Scan) (column : Int) : Scan :=
  if s.inFlow then s else leaveBlocksFrom column s.indents s

/-! ## Between tokens -/

/-- The state at the next token: behind blanks, comments and line breaks. A tab counts as a blank
only where no key may start. -/
def skipGap : Nat → Scan → Scan
  | 0, s => s
  | fuel + 1, s =>
    let c := s.cursor
    let c := if c.column == 0 && c.head? == some byteOrderMark then c.skip else c
    let c := c.skipWhile fun ch =>
      ch == ' ' || (ch == '\t' && (s.inFlow || !s.keyAllowed))
    let c := if c.head? == some '#' then c.skipLine else c
    if c.head?.any isBreak then
      skipGap fuel { s with cursor := c.skipBreak, keyAllowed := s.keyAllowed || !s.inFlow }
    else { s with cursor := c }

/-! ## Tokens -/

/-- The end of the text, which counts as the start of a line. -/
def takeEnd (s : Scan) : Option Scan := do
  let s ← (s.leaveBlocks (-1)).dropKey
  let line := if s.cursor.column = 0 then s.cursor.line else s.cursor.line + 1
  return { s.add .streamEnd with cursor := { s.cursor with line, column := 0 }, ended := true }

/-- A directive. -/
def takeDirective (s : Scan) : Option Scan := do
  let s ← (s.leaveBlocks (-1)).dropKey
  let (directive, cursor) ← readDirective s.cursor
  return { s.add (.directive directive) with cursor, keyAllowed := false }

/-- The mark at the start or end of a document. -/
def takeDocumentMark (s : Scan) (t : Token) : Option Scan := do
  let s ← (s.leaveBlocks (-1)).dropKey
  return { s.take 3 t with keyAllowed := false }

/-- The opening bracket of a flow collection. -/
def takeFlowStart (s : Scan) (t : Token) : Option Scan := do
  let s ← s.saveKey
  return { s.take 1 t with flowKeys := none :: s.flowKeys, keyAllowed := true }

/-- A closing bracket. -/
def takeFlowEnd (s : Scan) (t : Token) : Option Scan := do
  let s ← s.dropKey
  return { s.take 1 t with flowKeys := s.flowKeys.tail, keyAllowed := false }

/-- The comma of a flow collection. -/
def takeFlowEntry (s : Scan) : Option Scan := do
  let s ← s.dropKey
  return { s.take 1 .flowEntry with keyAllowed := true }

/-- The state in a block collection that starts here, if one may; a flow collection holds none. -/
def enterBlockHere (s : Scan) (start : Token) : Option Scan :=
  if s.inFlow then some s
  else if s.keyAllowed then some (s.enterBlock s.cursor.column s.count start)
  else none

/-- The dash before an item. -/
def takeBlockEntry (s : Scan) : Option Scan := do
  let s ← s.enterBlockHere .blockSequenceStart
  let s ← s.dropKey
  return { s.take 1 .blockEntry with keyAllowed := true }

/-- The question mark before a key. -/
def takeKey (s : Scan) : Option Scan := do
  let s ← s.enterBlockHere .blockMappingStart
  let s ← s.dropKey
  return { s.take 1 .key with keyAllowed := !s.inFlow }

/-- The colon before a value. -/
def takeValue (s : Scan) : Option Scan :=
  match s.key? with
  | some k =>
    let s := (s.insertAt k.position .key).enterBlock k.column k.position .blockMappingStart
    some { (s.take 1 .value).setKey none with keyAllowed := false }
  | none => do
    let s ← s.enterBlockHere .blockMappingStart
    return { s.take 1 .value with keyAllowed := !s.inFlow }

/-- The name of an anchor ends here. -/
def endsName (rest : List Char) : Bool :=
  endsWord rest || rest.head?.any fun c => c ∈ ['?', ':', ',', ']', '\x7d', '%', '@', '\x60']

/-- An anchor or an alias. -/
def takeName (s : Scan) (t : String → Token) : Option Scan := do
  let s ← s.saveKey
  let name := s.cursor.rest.tail.takeWhile isNameCharacter
  let s := s.take (name.length + 1) (t (String.ofList name))
  if name.isEmpty || !endsName s.cursor.rest || !s.cursor.sees 1 then none
  else return { s with keyAllowed := false }

/-- A tag. In a flow collection a comma may follow it at once. -/
def takeTag (s : Scan) : Option Scan := do
  let s ← s.saveKey
  let (tag, cursor) ← readTag s.cursor
  if !(endsWord cursor.rest || (s.inFlow && cursor.head? == some ',')) || !cursor.sees 1 then none
  else return { s.add (.tag tag) with cursor, keyAllowed := false }

/-- A block scalar. -/
def takeBlockScalar (s : Scan) (literal : Bool) : Option Scan := do
  let s ← s.dropKey
  let (text, cursor) ← readBlock literal s.size s.indent s.cursor
  let style := if literal then ScalarStyle.literal else .folded
  return { s.add (.scalar (String.ofList text) style) with cursor, keyAllowed := true }

/-- A quoted scalar. -/
def takeQuoted (s : Scan) (single : Bool) : Option Scan := do
  let s ← s.saveKey
  let (text, cursor) ← readQuoted single s.size s.cursor
  return { s.add (.scalar (String.ofList text) .quoted) with cursor, keyAllowed := false }

/-- A plain scalar. -/
def takePlain (s : Scan) : Option Scan := do
  let s ← s.saveKey
  let (text, cursor, atBreak) ← readPlain s.inFlow s.size (s.indent + 1) s.cursor
  return { s.add (.scalar (String.ofList text) .plain) with cursor, keyAllowed := atBreak }

/-- A character that starts no plain scalar by itself. -/
def isIndicator (c : Char) : Bool :=
  c ∈ ['-', '?', ':', ',', '[', ']', '\x7b', '\x7d', '#', '&', '*', '!', '|', '>', singleQuote,
    '"', '%', '@', '\x60']

/-- A plain scalar starts with this character before `rest`. -/
def startsPlain (inFlow : Bool) (c : Char) (rest : List Char) : Bool :=
  !(isBlank c || isBreak c || isIndicator c) ||
    (c == '-' && !rest.head?.any isBlank) ||
    (!inFlow && (c == '?' || c == ':') && !endsWord rest)

/-- The state behind the token at this place; none if there is no token. -/
def takeToken (s : Scan) : Option Scan :=
  match s.cursor.rest with
  | [] => s.takeEnd
  | c :: rest =>
    let spaced := s.inFlow || endsWord rest
    if s.cursor.column == 0 && c == '%' then s.takeDirective
    else if s.cursor.atDocumentMark then
      s.takeDocumentMark (if c == '-' then .documentStart else .documentEnd)
    else if c == '[' then s.takeFlowStart .flowSequenceStart
    else if c == '\x7b' then s.takeFlowStart .flowMappingStart
    else if c == ']' then s.takeFlowEnd .flowSequenceEnd
    else if c == '\x7d' then s.takeFlowEnd .flowMappingEnd
    else if c == ',' then s.takeFlowEntry
    else if c == '-' && endsWord rest then s.takeBlockEntry
    else if c == '?' && spaced then s.takeKey
    else if c == ':' && spaced then s.takeValue
    else if c == '*' then s.takeName .alias
    else if c == '&' then s.takeName .anchor
    else if c == '!' then s.takeTag
    else if c == '|' && !s.inFlow then s.takeBlockScalar true
    else if c == '>' && !s.inFlow then s.takeBlockScalar false
    else if c == singleQuote then s.takeQuoted true
    else if c == '"' then s.takeQuoted false
    else if startsPlain s.inFlow c rest then s.takePlain
    else none

/-- The state behind the next token. -/
def next (s : Scan) : Option Scan := do
  let s ← (s.skipGap s.size).checkKey
  if !s.cursor.sees 4 then none
  else
    let s ← (s.leaveBlocks s.cursor.column).takeToken
    s.checkKey

/-- The number of tokens before every one that may still become a key. -/
def certainCount (s : Scan) : Nat :=
  (s.blockKey :: s.flowKeys).foldl (fun n key =>
    match key with
    | some k => if reaches k s.cursor then min n k.position else n
    | none => n) s.count

/-- The tokens that are certain at this place, in their order. -/
def certain (s : Scan) : List Token :=
  s.tokens.reverse.take s.certainCount

/-- The tokens of the text, to its end or to where it cannot be read from here on. -/
def run (s : Scan) : Nat → List Token
  | 0 => s.certain ++ [.broken]
  | fuel + 1 =>
    match s.next with
    | none => s.certain ++ [.broken]
    | some s => if s.ended then s.tokens.reverse else s.run fuel

end Scan

/-- The tokens of a text: they end with its end, or break off where it cannot be read. -/
def tokens (text : String) : List Token :=
  let s := Scan.start text
  s.run (s.size + 1)

end ConstructSchema.Yaml
