import ConstructSchema.Yaml.Token

/-!
The nodes of a YAML document.

Where the tokens break off or do not fit, the nodes read so far stay, and a broken node stands at
that place and at the end of every collection around it. So a reader that walks the nodes in order
meets each fault of the content before the break, as if it had read along.

An alias stays a leaf, for it may stand within its own target. It keeps the number of its anchor:
the number of different names among the anchors before that one. An anchor that takes up the name
of an earlier one therefore leaves its number to the next one with a new name, and of the nodes with
one number the last is meant.
-/

namespace ConstructSchema.Yaml

/-- A node of a document. -/
inductive Node where
  | scalar (text : String) (style : ScalarStyle) (tag : Option String)
  | sequence (items : List Node)
  | mapping (members : List (Node × Node))
  /-- The node that has the anchor of this number. -/
  | alias (target : Nat)
  /-- The document cannot be read any further. -/
  | broken
  deriving Repr, Inhabited

namespace Node

/-- The node that stands where nothing is written, but for a tag. -/
def empty (tag : Option String) : Node := .scalar "" .plain tag

mutual

/-- The number of steps that it takes to walk over a node: one for each leaf, and for each
collection one at its start and one at its end, unless the document breaks off before. -/
def steps : Node → Nat
  | .scalar _ _ _ | .alias _ => 1
  | .sequence items => 1 + itemSteps items
  | .mapping members => 1 + memberSteps members
  | .broken => 0

/-- The number of steps over items to the end of their sequence. -/
def itemSteps : List Node → Nat
  | [] => 1
  | [.broken] => 0
  | item :: rest => item.steps + itemSteps rest

/-- The number of steps over members to the end of their mapping. -/
def memberSteps : List (Node × Node) → Nat
  | [] => 1
  | [(.broken, .broken)] => 0
  | (key, value) :: rest => key.steps + value.steps + memberSteps rest

end

end Node

/-! ## Properties -/

/-- What stands in front of the content of a node. -/
structure Properties where
  anchor : Option String := none
  tag : Option Tag := none

namespace Properties

/-- The properties at the front of tokens: at most one of each kind, in either order. -/
def ofTokens : List Token → Properties × List Token
  | .anchor name :: .tag tag :: rest | .tag tag :: .anchor name :: rest =>
    ({ anchor := some name, tag := some tag }, rest)
  | .anchor name :: rest => ({ anchor := some name }, rest)
  | .tag tag :: rest => ({ tag := some tag }, rest)
  | rest => ({}, rest)

/-- There are none. -/
def isEmpty (p : Properties) : Bool := p.anchor.isNone && p.tag.isNone

end Properties

/-- What the handles of tags stand for. -/
abbrev Handles := List (String × String)

namespace Handles

/-- The handles that need no directive. -/
def builtin : Handles := [("!", "!"), ("!!", "tag:yaml.org,2002:")]

/-- The whole of a tag; none if its handle stands for nothing. -/
def resolve (handles : Handles) (tag : Tag) : Option String :=
  if tag.handle.isEmpty then some tag.text
  else (handles.lookup tag.handle).map (· ++ tag.text)

end Handles

/-- The tokens that are left, with the anchors met so far. -/
structure Reading where
  rest : List Token
  handles : Handles := .builtin
  /-- The numbers of the anchors by name. -/
  anchors : List (String × Nat) := []
  /-- The nodes of the anchors by number, the last one first. -/
  targets : List (Nat × Node) := []

namespace Reading

/-- The reading with `rest` to follow. -/
def onto (r : Reading) (rest : List Token) : Reading := { r with rest }

/-- The reading that can go no further. -/
def stop (r : Reading) : Reading := r.onto [.broken]

/-- The tokens break off here. -/
def isBroken (r : Reading) : Bool := r.rest.head?.all (· == .broken)

/-- The number of the next anchor. -/
def nextAnchor (r : Reading) : Nat := r.anchors.length

/-- The reading within the node of an anchor, before any of its targets. -/
def within (r : Reading) (name : String) : Reading :=
  { r with
    anchors := (name, r.nextAnchor) :: r.anchors.filter (·.1 != name)
    targets := [] }

/-- The reading behind the node of the anchor numbered `n`, with the targets met before it. -/
def behind (r : Reading) (n : Nat) (node : Node) (earlier : List (Nat × Node)) : Reading :=
  { r with targets := r.targets ++ (n, node) :: earlier }

mutual

/-- The node at a place. Only within a block may it be a block collection, and only in a block
mapping a sequence that is not indented. -/
def readNode (block indentless : Bool) : Nat → Reading → Node × Reading
  | 0, r => (.broken, r.stop)
  | fuel + 1, r =>
    match r.rest with
    | .alias name :: rest =>
      match r.anchors.lookup name with
      | some n => (.alias n, r.onto rest)
      | none => (.broken, r.stop)
    | tokens =>
      let (p, rest) := Properties.ofTokens tokens
      match p.tag.map r.handles.resolve with
      | some none => (.broken, r.stop)
      | tag =>
        match p.anchor with
        | none => readContent block indentless p.isEmpty tag.join fuel (r.onto rest)
        | some name =>
          let (node, inner) :=
            readContent block indentless false tag.join fuel ((r.within name).onto rest)
          (node, inner.behind r.nextAnchor node r.targets)

/-- The node at a place, behind its properties; it may be empty unless they are missing. -/
def readContent (block indentless bare : Bool) (tag : Option String) :
    Nat → Reading → Node × Reading
  | 0, r => (.broken, r.stop)
  | fuel + 1, r =>
    match r.rest with
    | .scalar text style :: rest => (.scalar text style tag, r.onto rest)
    | .flowSequenceStart :: rest =>
      let (items, r) := readFlowItems true fuel (r.onto rest)
      (.sequence items, r)
    | .flowMappingStart :: rest =>
      let (members, r) := readFlowMembers true fuel (r.onto rest)
      (.mapping members, r)
    | t :: rest =>
      if t == .blockEntry && indentless then
        let (items, r) := readIndentlessItems fuel r
        (.sequence items, r)
      else if t == .blockSequenceStart && block then
        let (items, r) := readBlockItems fuel (r.onto rest)
        (.sequence items, r)
      else if t == .blockMappingStart && block then
        let (members, r) := readBlockMembers fuel (r.onto rest)
        (.mapping members, r)
      else if bare || t == .broken then (.broken, r.stop)
      else (.empty tag, r)
    | [] => (.broken, r.stop)

/-- The node of a part, or the empty one before a token that ends the part. -/
def readPart (block indentless : Bool) (ends : List Token) : Nat → Reading → Node × Reading
  | 0, r => (.broken, r.stop)
  | fuel + 1, r =>
    if r.rest.head?.any (· ∈ ends) then (.empty none, r) else readNode block indentless fuel r

/-- The items of a block sequence and its end. -/
def readBlockItems : Nat → Reading → List Node × Reading
  | 0, r => ([.broken], r.stop)
  | fuel + 1, r =>
    match r.rest with
    | .blockEntry :: rest =>
      let (item, r) := readPart true false [.blockEntry, .blockEnd] fuel (r.onto rest)
      let (items, r) := readBlockItems fuel r
      (item :: items, r)
    | .blockEnd :: rest => ([], r.onto rest)
    | _ => ([.broken], r.stop)

/-- The items of a sequence that is not indented; it ends before any other token. -/
def readIndentlessItems : Nat → Reading → List Node × Reading
  | 0, r => ([.broken], r.stop)
  | fuel + 1, r =>
    match r.rest with
    | .blockEntry :: rest =>
      let (item, r) := readPart true false [.blockEntry, .key, .value, .blockEnd] fuel (r.onto rest)
      let (items, r) := readIndentlessItems fuel r
      (item :: items, r)
    | _ => if r.isBroken then ([.broken], r.stop) else ([], r)

/-- The members of a block mapping and its end. -/
def readBlockMembers : Nat → Reading → List (Node × Node) × Reading
  | 0, r => ([(.broken, .broken)], r.stop)
  | fuel + 1, r =>
    match r.rest with
    | .key :: rest =>
      let (key, r) := readPart true true [.key, .value, .blockEnd] fuel (r.onto rest)
      let (value, r) := readValue true [.key, .value, .blockEnd] fuel r
      let (members, r) := readBlockMembers fuel r
      ((key, value) :: members, r)
    | .blockEnd :: rest => ([], r.onto rest)
    | _ => ([(.broken, .broken)], r.stop)

/-- The value behind a key: what follows a colon, or else the empty node. -/
def readValue (block : Bool) (ends : List Token) : Nat → Reading → Node × Reading
  | 0, r => (.broken, r.stop)
  | fuel + 1, r =>
    match r.rest with
    | .value :: rest => readPart block block ends fuel (r.onto rest)
    | _ => if r.isBroken then (.broken, r.stop) else (.empty none, r)

/-- The items of a flow sequence and its end. A pair among them is a mapping of one member. -/
def readFlowItems (first : Bool) : Nat → Reading → List Node × Reading
  | 0, r => ([.broken], r.stop)
  | fuel + 1, r =>
    match r.rest with
    | .flowSequenceEnd :: rest => ([], r.onto rest)
    | t :: rest =>
      if !first && t != .flowEntry then ([.broken], r.stop)
      else
        let r := if first then r else r.onto rest
        match r.rest with
        | .flowSequenceEnd :: rest => ([], r.onto rest)
        | .key :: rest =>
          let (pair, r) := readPair fuel (r.onto rest)
          let (items, r) := readFlowItems false fuel r
          (pair :: items, r)
        | _ =>
          let (item, r) := readNode false false fuel r
          let (items, r) := readFlowItems false fuel r
          (item :: items, r)
    | [] => ([.broken], r.stop)

/-- The mapping of one member that a pair in a flow sequence stands for. An empty key takes the
token that ends it along. -/
def readPair : Nat → Reading → Node × Reading
  | 0, r => (.broken, r.stop)
  | fuel + 1, r =>
    let ends : List Token := [.value, .flowEntry, .flowSequenceEnd]
    let (key, r) :=
      if r.rest.head?.any (· ∈ ends) then (Node.empty none, r.onto r.rest.tail)
      else readNode false false fuel r
    let (value, r) := readValue false [.flowEntry, .flowSequenceEnd] fuel r
    let tail := if r.isBroken then [(Node.broken, Node.broken)] else []
    (.mapping ((key, value) :: tail), r)

/-- The members of a flow mapping and its end. A node that no key token precedes is a key without a
value. -/
def readFlowMembers (first : Bool) : Nat → Reading → List (Node × Node) × Reading
  | 0, r => ([(.broken, .broken)], r.stop)
  | fuel + 1, r =>
    match r.rest with
    | .flowMappingEnd :: rest => ([], r.onto rest)
    | t :: rest =>
      if !first && t != .flowEntry then ([(.broken, .broken)], r.stop)
      else
        let r := if first then r else r.onto rest
        match r.rest with
        | .flowMappingEnd :: rest => ([], r.onto rest)
        | .key :: rest =>
          let ends : List Token := [.value, .flowEntry, .flowMappingEnd]
          let (key, r) := readPart false false ends fuel (r.onto rest)
          let (value, r) := readValue false [.flowEntry, .flowMappingEnd] fuel r
          let (members, r) := readFlowMembers false fuel r
          ((key, value) :: members, r)
        | _ =>
          let (key, r) := readNode false false fuel r
          let value := if r.isBroken then .broken else Node.empty none
          let (members, r) := readFlowMembers false fuel r
          ((key, value) :: members, r)
    | [] => ([(.broken, .broken)], r.stop)

end

end Reading

/-! ## Documents -/

/-- The first document of a text. -/
structure Document where
  root : Node
  /-- The nodes of the anchors by number, the last one first. -/
  targets : List (Nat × Node) := []
  /-- The greatest number of times that aliases can be followed. -/
  aliasLimit : Nat := 0
  /-- The text could be read to its end and holds no other document. -/
  complete : Bool := false

namespace Document

/-- The number of times that aliases can be followed for each step of a document. -/
def aliasesPerStep : Nat := 100

/-- The document of a text that breaks off at once. -/
def broken : Document := { root := .broken }

/-- The document of a root and of what is left behind it. -/
def ofRoot (root : Node) (r : Reading) : Document where
  root
  targets := r.targets
  aliasLimit := aliasesPerStep * root.steps
  complete := r.rest.dropWhile (· == .documentEnd) == [.streamEnd]

/-- The document whose root stands here. -/
def ofContent (r : Reading) : Document :=
  let (root, r) := Reading.readNode true false (4 * r.rest.length + 4) r
  ofRoot root r

/-- The token ends a document. -/
def endsDocument : Token → Bool
  | .directive _ | .documentStart | .documentEnd | .streamEnd => true
  | _ => false

/-- What the directives in front of a document make of the handles, and the tokens behind them. A
version may be given once, a handle once; the versions 1.1 and 1.2 can be read. -/
def readDirectives (versioned : Bool) (handles : Handles) :
    List Token → Option (Handles × List Token)
  | .directive (.version major minor) :: rest =>
    if versioned || major ≠ 1 || !(minor = 1 || minor = 2) then none
    else readDirectives true handles rest
  | .directive (.handle handle text) :: rest =>
    if (handles.lookup handle).isSome then none
    else readDirectives versioned ((handle, text) :: handles) rest
  | rest => some (handles ++ .builtin, rest)

/-- The first document that the tokens of a text hold. -/
def ofTokens (tokens : List Token) : Document :=
  match tokens with
  | [.streamEnd] => ofRoot (.empty none) { rest := tokens }
  | .directive _ :: _ | .documentStart :: _ =>
    match readDirectives false [] tokens with
    | some (handles, .documentStart :: rest) =>
      if rest.head?.any endsDocument then ofRoot (.empty none) { rest }
      else ofContent { rest, handles }
    | _ => broken
  | _ => ofContent { rest := tokens }

/-- The first document of a text. -/
def ofText (text : String) : Document := ofTokens (tokens text)

end Document

end ConstructSchema.Yaml
