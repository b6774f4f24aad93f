import ConstructSchema.Yaml.Cursor

/-!
Scalars of YAML: quoted, plain and block ones.

Each reader starts at a place in the text and gives the text of the scalar with the place behind
it, or none if the scalar is broken. A line break within a quoted or plain scalar is folded: a
single one counts as a space, of several the first is dropped.
-/

namespace ConstructSchema.Yaml

/-- How a scalar is written. -/
inductive ScalarStyle where
  | plain
  | quoted
  | literal
  | folded
  deriving DecidableEq, Repr, Inhabited

/-! ## Blanks and breaks between words -/

/-- What stands between two words of a scalar. -/
structure Gap where
  /-- The blanks before the first line break. -/
  blanks : List Char := []
  /-- A line break was met. -/
  hasBreak : Bool := false
  /-- The text of the first line break. -/
  first : List Char := []
  /-- The texts of the further line breaks. -/
  further : List Char := []

/-- The text that a gap folds to. -/
def Gap.text (g : Gap) : List Char :=
  if g.hasBreak then
    if g.first.head? == some '\n' then
      if g.further.isEmpty then [' '] else g.further
    else g.first ++ g.further
  else g.blanks

/-- The gap at a place, after a part of it; a tab on a new line is refused before the column
`indent`. -/
def readGap (indent : Int) : Nat → Cursor → Gap → Option (Gap × Cursor)
  | 0, _, _ => none
  | fuel + 1, c, g =>
    match c.head? with
    | none => some (g, c)
    | some ch =>
      if isBlank ch then
        if g.hasBreak then
          if ch == '\t' && (c.column : Int) < indent then none
          else readGap indent fuel c.skip g
        else readGap indent fuel c.skip { g with blanks := g.blanks ++ [ch] }
      else if isBreak ch then
        let g : Gap :=
          if g.hasBreak then { g with further := g.further ++ c.breakText }
          else { hasBreak := true, first := c.breakText }
        readGap indent fuel c.skipBreak g
      else some (g, c)

/-! ## Quoted scalars -/

/-- The single quote. -/
def singleQuote : Char := '\x27'

/-- The character that a letter behind a backslash stands for. -/
def escaped? : Char → Option Char
  | '0' => some '\x00'
  | 'a' => some '\x07'
  | 'b' => some '\x08'
  | 't' | '\t' => some '\t'
  | 'n' => some '\n'
  | 'v' => some '\x0b'
  | 'f' => some '\x0c'
  | 'r' => some '\r'
  | 'e' => some '\x1b'
  | ' ' => some ' '
  | '"' => some '"'
  | '/' => some '/'
  | '\\' => some '\\'
  | 'N' => some '\u0085'
  | '_' => some '\u00a0'
  | 'L' => some '\u2028'
  | 'P' => some '\u2029'
  | _ => none

/-- The number of hexadecimal digits that follow a letter behind a backslash. -/
def escapeWidth? : Char → Option Nat
  | 'x' => some 2
  | 'u' => some 4
  | 'U' => some 8
  | _ => none

/-- The value of a hexadecimal digit of either case. -/
def hexValue? (c : Char) : Option Nat :=
  if '0' ≤ c && c ≤ '9' then some (c.toNat - '0'.toNat)
  else if 'a' ≤ c && c ≤ 'f' then some (c.toNat - 'a'.toNat + 10)
  else if 'A' ≤ c && c ≤ 'F' then some (c.toNat - 'A'.toNat + 10)
  else none

/-- The character whose number is given by `width` hexadecimal digits. -/
def numbered? (width : Nat) (cs : List Char) : Option Char := do
  let digits ← (cs.take width).mapM hexValue?
  if digits.length < width then none
  else
    let n := digits.foldl (fun n d => n * 16 + d) 0
    if (0xd800 ≤ n && n ≤ 0xdfff) || 0x10ffff < n then none else some (Char.ofNat n)

/-- A run of characters of a quoted scalar: the run, the place behind it, and whether it ended at
an escaped line break. -/
abbrev QuotedRun := List Char × Cursor × Bool

/-- The run of characters up to a blank, a break or the closing quote. -/
def readQuotedRun (single : Bool) : Nat → Cursor → Option QuotedRun
  | 0, _ => none
  | fuel + 1, c =>
    let add (ch : Char) (c : Cursor) : Option QuotedRun :=
      (readQuotedRun single fuel c).map fun (run, c, atBreak) => (ch :: run, c, atBreak)
    match c.rest with
    | [] => some ([], c, false)
    | ch :: rest =>
      if isBlank ch || isBreak ch then some ([], c, false)
      else if single then
        if ch == singleQuote then
          if rest.head? == some singleQuote then add singleQuote (c.skipMany 2)
          else some ([], c, false)
        else add ch c.skip
      else if ch == '"' then some ([], c, false)
      else if ch == '\\' then
        match rest with
        | [] => none
        | e :: digits =>
          if isBreak e then some ([], c.skip.skipBreak, true)
          else
            match escapeWidth? e with
            | some width =>
              match numbered? width digits with
              | some ch => add ch (c.skipMany (2 + width))
              | none => none
            | none =>
              match escaped? e with
              | some ch => add ch (c.skipMany 2)
              | none => none
      else add ch c.skip

/-- A quoted scalar from a place behind its opening quote on. -/
def readQuotedFrom (single : Bool) : Nat → Cursor → Option (List Char × Cursor)
  | 0, _ => none
  | fuel + 1, c =>
    if c.atDocumentMark || !c.sees 4 then none
    else
      match readQuotedRun single (fuel + 1) c with
      | none => none
      | some (run, c, atBreak) =>
        match c.head? with
        | none => none
        | some ch =>
          if ch == (if single then singleQuote else '"') then
            if c.sees 2 then some (run, c.skip) else none
          else
            match readGap 0 (fuel + 1) c { hasBreak := atBreak } with
            | none => none
            | some (g, c) =>
              (readQuotedFrom single fuel c).map fun (text, c) => (run ++ g.text ++ text, c)

/-- The quoted scalar at a place of a text that has less than `size` characters. -/
def readQuoted (single : Bool) (size : Nat) (c : Cursor) : Option (List Char × Cursor) :=
  readQuotedFrom single size c.skip

/-! ## Plain scalars -/

/-- A character that separates the parts of a flow collection. -/
def isFlowSeparator (c : Char) : Bool :=
  c == ',' || c == '[' || c == ']' || c == '\x7b' || c == '\x7d'

/-- The run of characters of a plain scalar up to a blank, a break or an indicator. In a flow
collection a colon must not stand before a separator. -/
def readPlainRun (inFlow : Bool) : List Char → Option (List Char)
  | [] => some []
  | ch :: rest =>
    if isBlank ch || isBreak ch then some []
    else if inFlow && ch == ':' && rest.head?.any (fun d => isFlowSeparator d || d == '?') then none
    else if (ch == ':' && endsWord rest) || (inFlow && isFlowSeparator ch) then some []
    else (readPlainRun inFlow rest).map (ch :: ·)

/-- A plain scalar from a place on, behind the gap `before`: its text, the place behind it, and
whether a line break was the last thing passed. -/
def readPlainFrom (inFlow : Bool) (indent : Int) :
    Nat → Cursor → Gap → Option (List Char × Cursor × Bool)
  | 0, _, _ => none
  | fuel + 1, c, before =>
    if !c.sees 4 then none
    else if c.atDocumentMark || c.head? == some '#' then some ([], c, before.hasBreak)
    else
      match readPlainRun inFlow c.rest with
      | none => none
      | some [] => some ([], c, before.hasBreak)
      | some run =>
        let text := before.text ++ run
        let c := c.skipMany run.length
        match c.head? with
        | none => if c.cut then none else some (text, c, false)
        | some ch =>
          if !c.sees 2 then none
          else if isBlank ch || isBreak ch then
            match readGap indent (fuel + 1) c {} with
            | none => none
            | some (g, c) =>
              if !c.sees 1 then none
              else if !inFlow && (c.column : Int) < indent then some (text, c, g.hasBreak)
              else
                (readPlainFrom inFlow indent fuel c g).map fun (more, c, atBreak) =>
                  (text ++ more, c, atBreak)
          else some (text, c, false)

/-- The plain scalar at a place of a text that has less than `size` characters. In a block its
further lines start at the column `indent` or behind it. -/
def readPlain (inFlow : Bool) (size : Nat) (indent : Int) (c : Cursor) :
    Option (List Char × Cursor × Bool) :=
  readPlainFrom inFlow indent size c {}

/-! ## Block scalars -/

/-- What becomes of the line breaks at the end of a block scalar. -/
inductive Chomping where
  | strip
  | clip
  | keep
  deriving DecidableEq, Repr, Inhabited

/-- The chomping that an indicator asks for. -/
def Chomping.ofIndicator? : Char → Option Chomping
  | '-' => some .strip
  | '+' => some .keep
  | _ => none

/-- The indentation that an indicator asks for. -/
def indentation? (c : Char) : Option Nat :=
  if '0' ≤ c && c ≤ '9' then some (c.toNat - '0'.toNat) else none

/-- The header of a block scalar behind its first indicator: chomping and indentation, each at most
once and in either order; zero stands for an indentation that is found by looking. An explicit zero
is refused. -/
def readBlockHeader (c : Cursor) : Option (Chomping × Nat × Cursor) :=
  match c.head?.bind Chomping.ofIndicator?, c.head?.bind indentation? with
  | some chomping, _ =>
    match c.skip.head?.bind indentation? with
    | some 0 => none
    | some n => some (chomping, n, c.skipMany 2)
    | none => some (chomping, 0, c.skip)
  | none, some 0 => none
  | none, some n =>
    match c.skip.head?.bind Chomping.ofIndicator? with
    | some chomping => some (chomping, n, c.skipMany 2)
    | none => some (.clip, n, c.skip)
  | none, none => some (.clip, 0, c)

/-- Passes empty lines and the indentation of the next one: the texts of the breaks, the greatest
column reached, and the place there. While the indentation is not known (zero) every space
counts. -/
def readBlockBreaks (indent : Nat) :
    Nat → Nat → Cursor → Option (List Char × Nat × Cursor)
  | 0, _, _ => none
  | fuel + 1, reached, c =>
    let spaces := (c.rest.takeWhile (· == ' ')).length
    let c := c.skipMany (if indent = 0 then spaces else min spaces (indent - c.column))
    let reached := max reached c.column
    match c.head? with
    | none => some ([], reached, c)
    | some ch =>
      if ch == '\t' && (indent = 0 || c.column < indent) then none
      else if isBreak ch then
        (readBlockBreaks indent fuel reached c.skipBreak).map fun (text, reached, after) =>
          (c.breakText ++ text, reached, after)
      else some ([], reached, c)

/-- The lines of a block scalar, with what waits between them. -/
structure BlockText where
  text : List Char
  /-- The break behind the last line. -/
  last : List Char
  /-- The breaks of the empty lines behind it. -/
  empty : List Char
  after : Cursor

/-- The lines of a block scalar from a place at the start of one on. In a folded scalar a break
between two lines that do not start with a blank becomes a space, or nothing before empty lines. -/
def readBlockLines (literal : Bool) (indent : Nat) :
    Nat → Cursor → List Char → List Char → Bool → Option BlockText
  | 0, _, _, _, _ => none
  | fuel + 1, c, last, empty, afterBlank =>
    if c.column = indent && !c.rest.isEmpty then
      let startsBlank := c.head?.any isBlank
      let joint :=
        if !literal && last.head? == some '\n' && !afterBlank && !startsBlank then
          if empty.isEmpty then [' '] else []
        else last
      let line := c.rest.takeWhile fun ch => !isBreak ch
      let lineEnd := c.skipLine
      let next := lineEnd.skipBreak
      match readBlockBreaks indent (fuel + 1) 0 next with
      | none => none
      | some (breaks, _, after) =>
        (readBlockLines literal indent fuel after lineEnd.breakText breaks startsBlank).map fun b =>
          { b with text := joint ++ empty ++ line ++ b.text }
    else some ⟨[], last, empty, c⟩

/-- The block scalar at a place of a text that has less than `size` characters, in a collection of
the indentation `parent`. -/
def readBlock (literal : Bool) (size : Nat) (parent : Int) (c : Cursor) :
    Option (List Char × Cursor) := do
  let (chomping, increment, c) ← readBlockHeader c.skip
  let c ← c.skipRemark
  let given := if increment = 0 then 0 else (if 0 ≤ parent then parent.toNat else 0) + increment
  let (breaks, reached, c) ← readBlockBreaks given size 0 c
  let indent := if given = 0 then max reached (max (parent + 1).toNat 1) else given
  let b ← readBlockLines literal indent size c [] breaks false
  let tail := match chomping with
    | .strip => []
    | .clip => b.last
    | .keep => b.last ++ b.empty
  if b.after.sees 1 then return (b.text ++ tail, b.after) else none

end ConstructSchema.Yaml
