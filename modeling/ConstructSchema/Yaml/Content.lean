import ConstructSchema.Fault
import ConstructSchema.Yaml.Node

/-!
What the nodes of a document hold: texts, numbers, lists and records.

A node where nothing is written holds the empty text, and also an empty list and a record without
fields. An alias holds what its target holds; targets are no aliases themselves, so one step is
enough. As a short text can lead through its aliases to very many nodes, the steps to their targets
are counted, and one too many is a fault.
-/

namespace ConstructSchema.Yaml

/-- Decoding a part of a document, with the number of times that aliases were followed before. -/
abbrev Decode (α : Type) := ReaderT Document (StateT Nat (Except Fault)) α

namespace Node

mutual

/-- Whether a node can be passed over: the document goes on behind it. -/
def skippable : Node → Bool
  | .scalar _ _ _ | .alias _ => true
  | .sequence items => skippableItems items
  | .mapping members => skippableMembers members
  | .broken => false

/-- Whether all items can be passed over. -/
def skippableItems : List Node → Bool
  | [] => true
  | item :: rest => item.skippable && skippableItems rest

/-- Whether all members can be passed over. -/
def skippableMembers : List (Node × Node) → Bool
  | [] => true
  | (key, value) :: rest => key.skippable && value.skippable && skippableMembers rest

end

/-- The node itself, or the one that an alias stands for. -/
def follow : Node → Decode Node
  | .alias target => do
    let d ← read
    let followed ← get
    if d.aliasLimit ≤ followed then throw .malformed
    set (followed + 1)
    return (d.targets.lookup target).getD .broken
  | node => return node

end Node

/-! ## Numbers -/

/-- The number that digits of a base stand for; there has to be one. -/
def digits? (base : Nat) (digits : List Char) : Option Nat :=
  if digits.isEmpty then none
  else digits.foldlM (fun n c => do
    let d ← hexValue? c
    if d < base then some (n * base + d) else none) 0

/-- The natural number of a plain scalar: decimal without a leading zero, or in base 16, 8 or 2
behind its mark; a plus sign may stand in front. -/
def natural? (text : List Char) : Option Nat :=
  let unsigned := if text.head? == some '+' then text.tail else text
  match unsigned with
  | '0' :: 'x' :: rest => digits? 16 rest
  | '0' :: 'o' :: rest => digits? 8 rest
  | '0' :: 'b' :: rest => digits? 2 rest
  | ['0'] => some 0
  | '0' :: _ => none
  | _ => digits? 10 unsigned

/-- The tag of whole numbers. -/
def integerTag : String := "tag:yaml.org,2002:int"

/-- A scalar of this style and tag may be a number: a plain one, or a literal block with the tag of
numbers. -/
def mayBeNumber (style : ScalarStyle) (tag : Option String) : Bool :=
  style == .plain || (style == .literal && tag == some integerTag)

namespace Node

/-! ## Typed contents -/

/-- The text of a scalar. -/
def text (node : Node) : Decode String := do
  match ← node.follow with
  | .scalar text _ _ => return text
  | _ => throw .malformed

/-- The natural number of 32 bits of a scalar. -/
def word32 (node : Node) : Decode Nat := do
  match ← node.follow with
  | .scalar text style tag =>
    match if mayBeNumber style tag then natural? text.toList else none with
    | some n => if n < UInt32.size then return n else throw .malformed
    | none => throw .malformed
  | _ => throw .malformed

/-- The list of a sequence. -/
def listOf {α : Type} (decode : Node → Decode α) (node : Node) : Decode (List α) := do
  match ← node.follow with
  | .sequence items => items.mapM decode
  | .scalar "" .plain _ => return []
  | _ => throw .malformed

/-- What `field` makes of a record, from what the members before made of it, by the names of its
fields and their nodes; no field is given twice, and members of other names are passed over. -/
def readFields {σ : Type} (field : String → Option (σ → Node → Decode σ)) :
    List String → σ → List (Node × Node) → Decode σ
  | _, made, [] => return made
  | seen, made, (key, value) :: rest => do
    let name ← key.text
    match field name with
    | none => if value.skippable then readFields field seen made rest else throw .malformed
    | some decode =>
      if name ∈ seen then throw (.duplicateField name)
      else readFields field (name :: seen) (← decode made value) rest

/-- The record of a mapping: what `field` makes of it from `start` on. -/
def record {σ : Type} (start : σ) (field : String → Option (σ → Node → Decode σ)) (node : Node) :
    Decode σ := do
  match ← node.follow with
  | .mapping members => readFields field [] start members
  | .scalar "" .plain _ => return start
  | _ => throw .malformed

end Node

/-- What the document of a text holds, if the text has no other document. -/
def decodeText {α : Type} (decode : Node → Decode α) (text : String) : Except Fault α :=
  let d := Document.ofText text
  match (decode d.root).run d |>.run 0 with
  | .error fault => .error fault
  | .ok (value, _) => if d.complete then .ok value else .error .malformed

end ConstructSchema.Yaml
