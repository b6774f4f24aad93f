import ConstructSchema.Json.Basic

/-!
Printing JSON.

`Json.pretty` gives each item and each member a line of its own, indented by two spaces a level;
`Json.compact` writes no blanks at all. Both write an empty array or object as its two brackets,
escape what a string literal cannot hold, and write every other character as it is.
-/

namespace ConstructSchema.Json

/-- The digit of a number below sixteen, in lower case. -/
def hexDigit (n : Nat) : Char :=
  Nat.digitChar n

/-- The characters that stand for one character in a string literal. -/
def escapeChar (c : Char) : List Char :=
  if c = '"' then ['\\', '"']
  else if c = '\\' then ['\\', '\\']
  else if c = '\x08' then ['\\', 'b']
  else if c = '\x0c' then ['\\', 'f']
  else if c = '\n' then ['\\', 'n']
  else if c = '\r' then ['\\', 'r']
  else if c = '\t' then ['\\', 't']
  else if c < ' ' then ['\\', 'u', '0', '0', hexDigit (c.toNat / 16), hexDigit (c.toNat % 16)]
  else [c]

/-- The string literal of a text. -/
def literal (s : String) : List Char :=
  '"' :: (s.toList.flatMap escapeChar ++ ['"'])

/-- The literal of a number. -/
def Number.print (n : Number) : List Char :=
  (if n.negative then ['-'] else []) ++ Nat.toDigits 10 n.significand ++
    (if n.whole then [] else 'e' :: (toString n.exponent).toList)

/-- A line break and the indentation of a level. -/
def newline (level : Nat) : List Char :=
  '\n' :: List.replicate (2 * level) ' '

mutual

/-- A value whose lines are indented by `level`, the first one apart. -/
def prettyChars (level : Nat) : Json → List Char
  | .null => ['n', 'u', 'l', 'l']
  | .bool true => ['t', 'r', 'u', 'e']
  | .bool false => ['f', 'a', 'l', 's', 'e']
  | .number n => n.print
  | .string s => literal s
  | .array [] => ['[', ']']
  | .array (item :: items) =>
    '[' :: newline (level + 1) ++ prettyChars (level + 1) item ++
      prettyItems (level + 1) items ++ newline level ++ [']']
  | .object [] => ['{', '}']
  | .object ((name, value) :: members) =>
    '{' :: newline (level + 1) ++ literal name ++ [':', ' '] ++ prettyChars (level + 1) value ++
      prettyMembers (level + 1) members ++ newline level ++ ['}']
  | .inert value | .misnamed value => prettyChars level value
  | .broken => []

/-- Further items, each behind a comma and on its own line. -/
def prettyItems (level : Nat) : List Json → List Char
  | [] => []
  | item :: items => ',' :: newline level ++ prettyChars level item ++ prettyItems level items

/-- Further members, each behind a comma and on its own line. -/
def prettyMembers (level : Nat) : List (String × Json) → List Char
  | [] => []
  | (name, value) :: members =>
    ',' :: newline level ++ literal name ++ [':', ' '] ++ prettyChars level value ++
      prettyMembers level members

end

/-- The indented text of a value, without a line break at its end. -/
def pretty (value : Json) : String :=
  String.ofList (prettyChars 0 value)

mutual

/-- A value without blanks. -/
def compactChars : Json → List Char
  | .null => ['n', 'u', 'l', 'l']
  | .bool true => ['t', 'r', 'u', 'e']
  | .bool false => ['f', 'a', 'l', 's', 'e']
  | .number n => n.print
  | .string s => literal s
  | .array [] => ['[', ']']
  | .array (item :: items) => '[' :: compactChars item ++ compactItems items ++ [']']
  | .object [] => ['{', '}']
  | .object ((name, value) :: members) =>
    '{' :: literal name ++ [':'] ++ compactChars value ++ compactMembers members ++ ['}']
  | .inert value | .misnamed value => compactChars value
  | .broken => []

/-- Further items, each behind a comma. -/
def compactItems : List Json → List Char
  | [] => []
  | item :: items => ',' :: compactChars item ++ compactItems items

/-- Further members, each behind a comma. -/
def compactMembers : List (String × Json) → List Char
  | [] => []
  | (name, value) :: members =>
    ',' :: literal name ++ [':'] ++ compactChars value ++ compactMembers members

end

/-- The text of a value on one line. -/
def compact (value : Json) : String :=
  String.ofList (compactChars value)

end ConstructSchema.Json
