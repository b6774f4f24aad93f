import ConstructSchema.Yaml.Scalar

/-!
Tags of YAML, and the directives in front of a document.

A tag is written whole between angle brackets, or as a handle and the text behind it, where the
handle stands for the text that a directive gives it. An octet that cannot stand in a tag is written
by its number behind a percent sign, so the text of a tag is a list of octets, each given as the
character of that number; an octet of zero ends it.
-/

namespace ConstructSchema.Yaml

/-! ## Texts of tags -/

/-- A character of the text of a tag. The separators of flow collections belong to them only where
the text is `wide`. -/
def isTagCharacter (wide : Bool) (c : Char) : Bool :=
  isNameCharacter c ||
    c ∈ [';', '/', '?', ':', '@', '&', '=', '+', '$', '.', '!', '~', '*', singleQuote, '(', ')'] ||
    (wide && c ∈ [',', '[', ']'])

/-- The number of octets of a character whose first octet is `n`. -/
def octetCount? (n : Nat) : Option Nat :=
  if n < 0x80 then some 1
  else if 0xc0 ≤ n && n < 0xe0 then some 2
  else if 0xe0 ≤ n && n < 0xf0 then some 3
  else if 0xf0 ≤ n && n < 0xf8 then some 4
  else none

/-- The number of octets that are due behind the octet `n`, when `due` of a character were due
before it. -/
def octetsDue? (due n : Nat) : Option Nat :=
  if due = 0 then (octetCount? n).map (· - 1)
  else if 0x80 ≤ n && n < 0xc0 then some (due - 1)
  else none

/-- The text of a tag in front of a text and the number of characters it takes, when `due` octets
of a character are due; none if an octet is not written as it should be. -/
def readTagText (wide : Bool) (due : Nat) : List Char → Option (List Char × Nat)
  | '%' :: high :: low :: rest => do
    let n := (← hexValue? high) * 16 + (← hexValue? low)
    let (text, count) ← readTagText wide (← octetsDue? due n) rest
    return (Char.ofNat n :: text, count + 3)
  | c :: rest =>
    if due ≠ 0 || c == '%' then none
    else if isTagCharacter wide c then
      (readTagText wide 0 rest).map fun (text, count) => (c :: text, count + 1)
    else some ([], 0)
  | [] => if due = 0 then some ([], 0) else none

/-- The octets before the first that is zero. -/
def untilNull (octets : List Char) : String :=
  String.ofList (octets.takeWhile (· != '\x00'))

/-! ## Handles and tags -/

/-- The exclamation mark in front of a text with the name behind it, and the exclamation mark
behind that if there is one. -/
def handleAt : List Char → List Char
  | '!' :: rest =>
    let name := rest.takeWhile isNameCharacter
    let mark := (rest.drop name.length).take 1
    '!' :: name ++ (if mark == ['!'] then mark else [])
  | _ => []

/-- An exclamation mark stands at both ends of the handle. -/
def isClosedHandle (handle : List Char) : Bool :=
  2 ≤ handle.length && handle.getLast? == some '!'

/-- A tag as it is written. -/
structure Tag where
  /-- The handle; empty if the text is the whole tag. -/
  handle : String
  text : String
  deriving DecidableEq, Repr, Inhabited

/-- The tag of a single exclamation mark. -/
def Tag.bare : Tag := ⟨"", "!"⟩

/-- The tag at a place, and the place behind it. Without a closed handle in front, all behind the
first exclamation mark is text. -/
def readTag (c : Cursor) : Option (Tag × Cursor) :=
  match c.rest with
  | '!' :: '<' :: rest => do
    let (text, count) ← readTagText true 0 rest
    let c := c.skipMany (count + 2)
    if count = 0 || c.head? != some '>' then none
    else return (⟨"", untilNull text⟩, c.skip)
  | rest => do
    let handle := handleAt rest
    let c := c.skipMany handle.length
    let (text, count) ← readTagText false 0 c.rest
    let c := c.skipMany count
    if isClosedHandle handle then
      if count = 0 then none else return (⟨String.ofList handle, untilNull text⟩, c)
    else
      let text := untilNull (handle.tail ++ text)
      return (if text.isEmpty then Tag.bare else ⟨"!", text⟩, c)

/-! ## Directives -/

/-- A directive in front of a document. -/
inductive Directive where
  /-- The version of YAML that the document is written in. -/
  | version (major minor : Nat)
  /-- What a handle stands for. -/
  | handle (handle text : String)
  deriving DecidableEq, Repr, Inhabited

/-- The greatest number of digits of a part of a version. -/
def versionDigits : Nat := 9

/-- A part of a version. -/
def readVersionPart (c : Cursor) : Option (Nat × Cursor) :=
  let digits := c.rest.takeWhile Char.isDigit
  if digits.isEmpty || versionDigits < digits.length then none
  else
    some (digits.foldl (fun n d => n * 10 + (d.toNat - '0'.toNat)) 0, c.skipMany digits.length)

/-- The directive of a version, behind its name. -/
def readVersion (c : Cursor) : Option (Directive × Cursor) := do
  let (major, c) ← readVersionPart (c.skipWhile isBlank)
  if c.head? != some '.' then none
  else
    let (minor, c) ← readVersionPart c.skip
    return (.version major minor, c)

/-- The directive of a handle, behind its name. -/
def readHandle (c : Cursor) : Option (Directive × Cursor) := do
  let c := c.skipWhile isBlank
  let handle := handleAt c.rest
  let c := c.skipMany handle.length
  if !(handle == ['!'] || isClosedHandle handle) || !c.head?.any isBlank then none
  else
    let c := c.skipWhile isBlank
    let (text, count) ← readTagText true 0 c.rest
    let c := c.skipMany count
    if count = 0 || !endsWord c.rest then none
    else return (.handle (String.ofList handle) (untilNull text), c)

/-- The directive at a place, and the start of the next line. -/
def readDirective (c : Cursor) : Option (Directive × Cursor) := do
  let name := c.rest.tail.takeWhile isNameCharacter
  let c := c.skipMany (name.length + 1)
  if !endsWord c.rest then none
  else
    let (directive, c) ←
      if String.ofList name == "YAML" then readVersion c
      else if String.ofList name == "TAG" then readHandle c
      else none
    return (directive, ← c.skipRemark)

end ConstructSchema.Yaml
