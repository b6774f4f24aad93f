import ConstructSchema.Json.Basic

/-!
Reading JSON from a text.

`Json.read` never fails: where the text stops being JSON the value ends in `broken`, so that a
decoder meets the faults of what stands before in their order. Blanks are space, tab, line feed
and carriage return.
-/

namespace ConstructSchema.Json

/-- The greatest number of arrays and objects within each other in a value that can be used. -/
def nestingLimit : Nat := 127

/-- A blank between two lexemes. -/
def isBlank (c : Char) : Bool :=
  c == ' ' || c == '\t' || c == '\n' || c == '\r'

/-- The characters behind the blanks in front. -/
def skipBlanks (cs : List Char) : List Char :=
  cs.dropWhile isBlank

/-! ## Texts -/

/-- The value of a hexadecimal digit of either case. -/
def hexDigit? (c : Char) : Option Nat :=
  if '0' ≤ c && c ≤ '9' then some (c.toNat - '0'.toNat)
  else if 'a' ≤ c && c ≤ 'f' then some (c.toNat - 'a'.toNat + 10)
  else if 'A' ≤ c && c ≤ 'F' then some (c.toNat - 'A'.toNat + 10)
  else none

/-- The number of four hexadecimal digits. -/
def unit? (a b c d : Char) : Option Nat := do
  let a ← hexDigit? a
  let b ← hexDigit? b
  let c ← hexDigit? c
  let d ← hexDigit? d
  return ((a * 16 + b) * 16 + c) * 16 + d

/-- The unit is the first of a surrogate pair. -/
def isHighSurrogate (n : Nat) : Bool := 0xd800 ≤ n && n ≤ 0xdbff

/-- The unit is the second of a surrogate pair. -/
def isLowSurrogate (n : Nat) : Bool := 0xdc00 ≤ n && n ≤ 0xdfff

/-- The character of a surrogate pair. -/
def pairedChar (high low : Nat) : Char :=
  Char.ofNat (0x10000 + (high - 0xd800) * 0x400 + (low - 0xdc00))

/-- The character behind a backslash that is not followed by a number. -/
def escapedChar? : Char → Option Char
  | '"' => some '"'
  | '\\' => some '\\'
  | '/' => some '/'
  | 'b' => some '\x08'
  | 'f' => some '\x0c'
  | 'n' => some '\n'
  | 'r' => some '\r'
  | 't' => some '\t'
  | _ => none

/-- A part of a string literal: a character, or the unit that an escape gives by its number. -/
inductive Piece where
  | char (c : Char)
  | unit (n : Nat)

/-- The parts of a string literal whose opening quote was read, and what follows its closing one;
none if the literal breaks. -/
def readPieces : List Char → Option (List Piece × List Char)
  | [] => none
  | '"' :: rest => some ([], rest)
  | '\\' :: 'u' :: a :: b :: c :: d :: rest =>
    match unit? a b c d with
    | none => none
    | some n => (readPieces rest).map fun (pieces, after) => (.unit n :: pieces, after)
  | '\\' :: e :: rest =>
    match escapedChar? e with
    | none => none
    | some c => (readPieces rest).map fun (pieces, after) => (.char c :: pieces, after)
  | c :: rest =>
    if c < ' ' then none
    else (readPieces rest).map fun (pieces, after) => (.char c :: pieces, after)

/-- The contents of a string literal. -/
structure Literal where
  chars : List Char
  /-- No surrogate was met without its partner. -/
  paired : Bool
  /-- A second surrogate stands in front and waits for the first one of its pair. -/
  waiting : Option Nat

/-- The contents when nothing more can come in front that completes a pair. -/
def Literal.settled (l : Literal) : Literal :=
  ⟨l.chars, l.paired && l.waiting.isNone, none⟩

/-- The contents with one more character in front. -/
def Literal.cons (c : Char) (l : Literal) : Literal :=
  { l.settled with chars := c :: l.chars }

/-- The contents with one more part in front. -/
def Literal.add : Piece → Literal → Literal
  | .char c, l => l.cons c
  | .unit n, l =>
    if isHighSurrogate n then
      match l.waiting with
      | some low => ⟨pairedChar n low :: l.chars, l.paired, none⟩
      | none => ⟨l.chars, false, none⟩
    else if isLowSurrogate n then { l.settled with waiting := some n }
    else l.cons (Char.ofNat n)

/-- The contents that the parts of a literal make. -/
def Literal.ofPieces (pieces : List Piece) : Literal :=
  (pieces.foldr Literal.add ⟨[], true, none⟩).settled

/-- The contents of a string literal whose opening quote was read, and what follows its closing
one; none if the literal breaks. -/
def readLiteral (cs : List Char) : Option (Literal × List Char) :=
  (readPieces cs).map fun (pieces, after) => (.ofPieces pieces, after)

/-! ## Numbers -/

/-- A decimal digit. -/
def isDigit (c : Char) : Bool :=
  '0' ≤ c && c ≤ '9'

/-- The number written by decimal digits, after digits that make `n`. -/
def digitsValue (n : Nat) (digits : List Char) : Nat :=
  digits.foldl (fun n d => n * 10 + (d.toNat - '0'.toNat)) n

/-- The digits before point and exponent: a zero alone or digits that do not start with one. -/
def readWhole (cs : List Char) : Option (List Char × List Char) :=
  let digits := cs.takeWhile isDigit
  match digits with
  | [] => none
  | '0' :: _ :: _ => none
  | _ => some (digits, cs.dropWhile isDigit)

/-- The digits behind a point, if there is a point. -/
def readFraction : List Char → Option (Option (List Char) × List Char)
  | '.' :: rest =>
    match rest.takeWhile isDigit with
    | [] => none
    | digits => some (some digits, rest.dropWhile isDigit)
  | cs => some (none, cs)

/-- The digits of an exponent, at least one. -/
def readExponentDigits (negative : Bool) (cs : List Char) : Option (Option Int × List Char) :=
  match cs.takeWhile isDigit with
  | [] => none
  | digits =>
    let n : Int := digitsValue 0 digits
    some (some (if negative then -n else n), cs.dropWhile isDigit)

/-- The exponent, if there is one. -/
def readExponent : List Char → Option (Option Int × List Char)
  | c :: rest =>
    if c = 'e' || c = 'E' then
      match rest with
      | '+' :: digits => readExponentDigits false digits
      | '-' :: digits => readExponentDigits true digits
      | digits => readExponentDigits false digits
    else some (none, c :: rest)
  | [] => some (none, [])

/-- A number without its sign. -/
def readUnsigned (negative : Bool) (cs : List Char) : Option (Number × List Char) := do
  let (whole, cs) ← readWhole cs
  let (fraction, cs) ← readFraction cs
  let (exponent, cs) ← readExponent cs
  let decimals := fraction.getD []
  return ({
    negative
    significand := digitsValue (digitsValue 0 whole) decimals
    exponent := exponent.getD 0 - decimals.length
    whole := fraction.isNone && exponent.isNone }, cs)

/-- A number literal and what follows it. -/
def readNumber : List Char → Option (Number × List Char)
  | '-' :: cs => readUnsigned true cs
  | cs => readUnsigned false cs

/-! ## Values -/

/-- What was read of a text, and what is left of it unless it broke. -/
abbrev Reading (α : Type) := α × Option (List Char)

/-- A value that can be used only if `fit` holds. -/
def inertUnless (fit : Bool) (value : Json) : Json :=
  if fit then value else .inert value

/-- The member that starts with a literal as its name. -/
def memberOf (name : Literal) (value : Json) : String × Json :=
  if name.paired then (String.ofList name.chars, value) else ("", .misnamed value)

mutual

/-- The value at the front of a text, where `room` more arrays and objects may be nested. Every
call that does not consume a character is answered by one that does, so twice the length of the
text and two more is enough fuel. -/
def readValue : Nat → Nat → List Char → Reading Json
  | 0, _, _ => (.broken, none)
  | fuel + 1, room, cs =>
    match skipBlanks cs with
    | 'n' :: 'u' :: 'l' :: 'l' :: rest => (.null, some rest)
    | 't' :: 'r' :: 'u' :: 'e' :: rest => (.bool true, some rest)
    | 'f' :: 'a' :: 'l' :: 's' :: 'e' :: rest => (.bool false, some rest)
    | '"' :: rest =>
      match readLiteral rest with
      | none => (.broken, none)
      | some (l, rest) => (inertUnless l.paired (.string (String.ofList l.chars)), some rest)
    | '[' :: rest =>
      let (items, rest) :=
        match skipBlanks rest with
        | ']' :: rest => ([], some rest)
        | _ => readItems fuel (room - 1) rest
      (inertUnless (0 < room) (.array items), rest)
    | '{' :: rest =>
      let (members, rest) :=
        match skipBlanks rest with
        | '}' :: rest => ([], some rest)
        | _ => readMembers fuel (room - 1) rest
      (inertUnless (0 < room) (.object members), rest)
    | cs =>
      match readNumber cs with
      | none => (.broken, none)
      | some (n, rest) => (inertUnless n.isFinite (.number n), some rest)

/-- The items of an array up to its closing bracket; at least one is due. -/
def readItems : Nat → Nat → List Char → Reading (List Json)
  | 0, _, _ => ([.broken], none)
  | fuel + 1, room, cs =>
    match readValue fuel room cs with
    | (value, none) => ([value], none)
    | (value, some rest) =>
      match skipBlanks rest with
      | ',' :: rest =>
        let (items, rest) := readItems fuel room rest
        (value :: items, rest)
      | ']' :: rest => ([value], some rest)
      | _ => ([value, .broken], none)

/-- The members of an object up to its closing brace; at least one is due. -/
def readMembers : Nat → Nat → List Char → Reading (List (String × Json))
  | 0, _, _ => ([("", .broken)], none)
  | fuel + 1, room, cs =>
    match skipBlanks cs with
    | '"' :: rest =>
      match readLiteral rest with
      | none => ([("", .broken)], none)
      | some (name, rest) =>
        match skipBlanks rest with
        | ':' :: rest =>
          match readValue fuel room rest with
          | (value, none) => ([memberOf name value], none)
          | (value, some rest) =>
            match skipBlanks rest with
            | ',' :: rest =>
              let (members, rest) := readMembers fuel room rest
              (memberOf name value :: members, rest)
            | '}' :: rest => ([memberOf name value], some rest)
            | _ => ([memberOf name value, ("", .broken)], none)
        | _ => ([memberOf name .broken], none)
    | _ => ([("", .broken)], none)

end

/-- The value of a text, and whether nothing but blanks follows it. -/
def readChars (cs : List Char) : Json × Bool :=
  match readValue (2 * cs.length + 2) nestingLimit cs with
  | (value, none) => (value, false)
  | (value, some rest) => (value, (skipBlanks rest).isEmpty)

/-- The value of a text, and whether nothing but blanks follows it. -/
def read (s : String) : Json × Bool :=
  readChars s.toList

/-- What a text decodes to. Faults of the value are reported before text that follows it. -/
def decodeText {α : Type} (decode : Json → Except Fault α) (s : String) : Except Fault α :=
  let (value, complete) := read s
  match decode value with
  | .error fault => .error fault
  | .ok result => if complete then .ok result else .error .malformed

end ConstructSchema.Json
