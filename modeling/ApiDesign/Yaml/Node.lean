import ApiDesign.Yaml.Token

/-!
# Nodes

A document is a tree of nodes: scalars, sequences and mappings, any of which may have a tag and an
anchor, and aliases, which stand for the node with an anchor.

* `Node` — the nodes of a document as they are written;
* `Anchors` — the nodes that aliases may stand for;
* `Document.ofTokens` — the document that a stream holds; a stream without a node holds no root.
-/

namespace ApiDesign.Yaml

/-- A node as it is written. -/
inductive Node where
  | scalar (value : Scalar)
  | sequence (tag : Option Tag) (items : List Node)
  | mapping (tag : Option Tag) (entries : List (Node × Node))
  /-- The node of an anchor, by the number of the anchor. -/
  | alias (anchor : Nat)
  deriving Inhabited

namespace Node

/-- The empty plain scalar, which stands where a node is left out. -/
def empty : Node := .scalar ⟨none, .plain, ""⟩

mutual

/-- The size of a node: one for a scalar or alias, two for the ends of a collection. -/
def size : Node → Nat
  | .scalar _ => 1
  | .alias _ => 1
  | .sequence _ items => 2 + sizeItems items
  | .mapping _ entries => 2 + sizeEntries entries

/-- The size of the items of a sequence. -/
def sizeItems : List Node → Nat
  | [] => 0
  | n :: r => n.size + sizeItems r

/-- The size of the entries of a mapping. -/
def sizeEntries : List (Node × Node) → Nat
  | [] => 0
  | (k, v) :: r => k.size + v.size + sizeEntries r

end

end Node

/-! ### Anchors -/

/-- A node with an anchor. -/
structure AnchoredNode where
  /-- The number of the anchor. -/
  anchor : Nat
  /-- The number of anchors that were begun before it. -/
  serial : Nat
  node : Node

/-- The anchors of a document so far. -/
structure Anchors where
  /-- The number of each name, by its last use. -/
  names : List (String × Nat)
  /-- The number of anchors that were begun. -/
  begun : Nat
  nodes : List AnchoredNode

namespace Anchors

/-- No anchors. -/
def empty : Anchors := ⟨[], 0, []⟩

/-- Begins a node with an anchor.  Its number is the number of names that are in use. -/
def enter (a : Anchors) (name : String) : Anchors :=
  let number := a.names.length
  { a with
    names := (name, number) :: a.names.filter (·.1 ≠ name)
    begun := a.begun + 1 }

/-- The number that a name stands for at present. -/
def number? (a : Anchors) (name : String) : Option Nat :=
  (a.names.find? (·.1 = name)).map (·.2)

/-- Adds the node of an anchor. -/
def add (a : Anchors) (node : AnchoredNode) : Anchors := { a with nodes := node :: a.nodes }

/-- The later one of two nodes. -/
def later (found : Option AnchoredNode) (n : AnchoredNode) : Option AnchoredNode :=
  match found with
  | some m => if m.serial < n.serial then some n else some m
  | none => some n

/-- The node of an anchor: the last one that was begun under its number. -/
def node? (a : Anchors) (anchor : Nat) : Option Node :=
  ((a.nodes.filter (·.anchor = anchor)).foldl later none).map (·.node)

end Anchors

/-! ### Reading nodes -/

/-- The tokens that are left, the handles of tags, and the anchors so far. -/
structure NodeState where
  tokens : List Token
  handles : List (String × Tag)
  anchors : Anchors

/-- A reader of nodes. -/
abbrev NodeReader := StateT NodeState (Except SyntaxError)

namespace NodeReader

/-- The next token. -/
def peek : NodeReader (Option Token) := do return (← get).tokens.head?

/-- Passes over a token. -/
def advance : NodeReader Unit := modify fun s => { s with tokens := s.tokens.drop 1 }

/-- The tag of a handle and a suffix. -/
def resolveTag (handle : String) (suffix : Tag) : NodeReader Tag := do
  if handle.isEmpty then return suffix
  else
    match (← get).handles.find? (·.1 = handle) with
    | some (_, start) => return start ++ suffix
    | none => throw .undefinedTagHandle

/-- The properties of a node. -/
structure Properties where
  anchor : Option String
  tag : Option Tag

/-- Reads an anchor, if there is one. -/
def readAnchor? : NodeReader (Option String) := do
  match ← peek with
  | some (.anchor name) => advance; return some name
  | _ => return none

/-- Reads a tag, if there is one. -/
def readTag? : NodeReader (Option Tag) := do
  match ← peek with
  | some (.tag handle suffix) => advance; return some (← resolveTag handle suffix)
  | _ => return none

/-- Reads the properties of a node: an anchor and a tag in either order. -/
def readProperties : NodeReader Properties := do
  match ← readAnchor? with
  | some anchor => return ⟨some anchor, ← readTag?⟩
  | none =>
    match ← readTag? with
    | some tag => return ⟨← readAnchor?, some tag⟩
    | none => return ⟨none, none⟩

/-- Begins a node; tells the number and the serial number of its anchor. -/
def enter (name : Option String) : NodeReader (Option (Nat × Nat)) := do
  match name with
  | none => return none
  | some name =>
    let anchors := (← get).anchors
    modify fun s => { s with anchors := s.anchors.enter name }
    return some (anchors.names.length, anchors.begun)

/-- Ends a node. -/
def leave (place : Option (Nat × Nat)) (node : Node) : NodeReader Node := do
  match place with
  | none => return node
  | some (anchor, serial) =>
    modify fun s => { s with anchors := s.anchors.add ⟨anchor, serial, node⟩ }
    return node

/-- The alias of a name. -/
def aliasOf (name : String) : NodeReader Node := do
  match (← get).anchors.number? name with
  | some anchor => return .alias anchor
  | none => throw .unknownAnchor

/-- Whether a node that may be left out is left out before one of the tokens, or at the end. -/
def isOmitted (next : Option Token) (ends : List Token) : Bool :=
  match next with
  | some t => ends.contains t
  | none => false

/-- A node of which there are only properties. -/
def otherNode (properties : Properties) (place : Option (Nat × Nat)) : NodeReader Node :=
  if properties.anchor.isSome || properties.tag.isSome then
    leave place (.scalar ⟨properties.tag, .plain, ""⟩)
  else throw .expectedNode

mutual

/-- Reads a node.  `block` tells whether block collections may occur, and `indentless` whether a
block sequence may occur that is not indented. -/
def node (fuel : Nat) (block indentless : Bool) : NodeReader Node :=
  match fuel with
  | 0 => throw .expectedNode
  | fuel + 1 => do
    match ← peek with
    | some (.alias name) => advance; aliasOf name
    | _ =>
      let properties ← readProperties
      let place ← enter properties.anchor
      let tag := properties.tag
      match ← peek with
      | some (.scalar style text) => advance; leave place (.scalar ⟨tag, style, text⟩)
      | some .flowSequenceStart =>
        advance; leave place (.sequence tag (← flowItems fuel true))
      | some .flowMappingStart =>
        advance; leave place (.mapping tag (← flowEntries fuel true))
      | some .blockSequenceStart =>
        if block then do advance; leave place (.sequence tag (← blockItems fuel))
        else otherNode properties place
      | some .blockMappingStart =>
        if block then do advance; leave place (.mapping tag (← blockEntries fuel))
        else otherNode properties place
      | some .blockEntry =>
        if indentless then do leave place (.sequence tag (← indentlessItems fuel))
        else otherNode properties place
      | _ => otherNode properties place

/-- Reads a node that may be left out before the given tokens. -/
def nodeBefore (fuel : Nat) (block indentless : Bool) (ends : List Token) : NodeReader Node :=
  match fuel with
  | 0 => throw .expectedNode
  | fuel + 1 => do
    if isOmitted (← peek) ends then return .empty else node fuel block indentless

/-- Reads the items of an indented block sequence. -/
def blockItems (fuel : Nat) : NodeReader (List Node) :=
  match fuel with
  | 0 => throw .expectedEntry
  | fuel + 1 => do
    match ← peek with
    | some .blockEntry =>
      advance
      let item ← nodeBefore fuel true false [.blockEntry, .blockEnd]
      return item :: (← blockItems fuel)
    | some .blockEnd => advance; return []
    | _ => throw .expectedEntry

/-- Reads the items of a block sequence that is not indented. -/
def indentlessItems (fuel : Nat) : NodeReader (List Node) :=
  match fuel with
  | 0 => throw .expectedEntry
  | fuel + 1 => do
    match ← peek with
    | some .blockEntry =>
      advance
      let item ← nodeBefore fuel true false [.blockEntry, .key, .value, .blockEnd]
      return item :: (← indentlessItems fuel)
    | _ => return []

/-- Reads the entries of a block mapping. -/
def blockEntries (fuel : Nat) : NodeReader (List (Node × Node)) :=
  match fuel with
  | 0 => throw .expectedKey
  | fuel + 1 => do
    match ← peek with
    | some .key =>
      advance
      let k ← nodeBefore fuel true true [.key, .value, .blockEnd]
      let v ← valueBefore fuel true [.key, .value, .blockEnd]
      return (k, v) :: (← blockEntries fuel)
    | some .blockEnd => advance; return []
    | _ => throw .expectedKey

/-- Reads the value of a key; without a mark it is left out. -/
def valueBefore (fuel : Nat) (block : Bool) (ends : List Token) : NodeReader Node :=
  match fuel with
  | 0 => throw .expectedKey
  | fuel + 1 => do
    match ← peek with
    | some .value => advance; nodeBefore fuel block block ends
    | _ => return .empty

/-- Reads the items of a flow sequence.  An item with a key is a mapping of one entry. -/
def flowItems (fuel : Nat) (first : Bool) : NodeReader (List Node) :=
  match fuel with
  | 0 => throw .expectedSeparator
  | fuel + 1 => do
    match ← peek with
    | some .flowSequenceEnd => advance; return []
    | next =>
      if !first then
        if next = some .flowEntry then advance else throw .expectedSeparator
      match ← peek with
      | some .key =>
        advance
        let entry ← flowPair fuel
        return .mapping none [entry] :: (← flowItems fuel false)
      | some .flowSequenceEnd => advance; return []
      | _ =>
        let item ← node fuel false false
        return item :: (← flowItems fuel false)

/-- Reads the entry of an item with a key.  A key that is left out takes the next token with it. -/
def flowPair (fuel : Nat) : NodeReader (Node × Node) :=
  match fuel with
  | 0 => throw .expectedSeparator
  | fuel + 1 => do
    let ends := [.flowEntry, .flowSequenceEnd]
    let k ← if isOmitted (← peek) (.value :: ends) then do advance; pure .empty
      else node fuel false false
    return (k, ← valueBefore fuel false ends)

/-- Reads the entries of a flow mapping.  A key without a value has the empty value. -/
def flowEntries (fuel : Nat) (first : Bool) : NodeReader (List (Node × Node)) :=
  match fuel with
  | 0 => throw .expectedSeparator
  | fuel + 1 => do
    let ends := [.flowEntry, .flowMappingEnd]
    match ← peek with
    | some .flowMappingEnd => advance; return []
    | next =>
      if !first then
        if next = some .flowEntry then advance else throw .expectedSeparator
      match ← peek with
      | some .key =>
        advance
        let k ← nodeBefore fuel false false (.value :: ends)
        let v ← valueBefore fuel false ends
        return (k, v) :: (← flowEntries fuel false)
      | some .flowMappingEnd => advance; return []
      | _ =>
        let k ← node fuel false false
        return (k, .empty) :: (← flowEntries fuel false)

end

end NodeReader

/-! ### Documents -/

/-- The document of a stream.  There is no root if the stream holds no node at all. -/
structure Document where
  root : Option Node
  anchors : Anchors

namespace Document

/-- The handles that every document knows. -/
def commonHandles : List (String × Tag) := [("!", .ofText "!"), ("!!", .core "")]

/-- Reads the directives before a document; `versioned` tells whether a version was declared. -/
def readDirectives (versioned : Bool) (handles : List (String × Tag)) :
    List Token → Except SyntaxError (List (String × Tag) × List Token)
  | .versionDirective major minor :: r =>
    if versioned then .error .repeatedDirective
    else if major = 1 && (minor = 1 || minor = 2) then readDirectives true handles r
    else .error .unsupportedVersion
  | .tagDirective handle start :: r =>
    if handles.any (·.1 = handle) then .error .repeatedDirective
    else readDirectives versioned (handles ++ [(handle, start)]) r
  | r => .ok (handles, r)

/-- Whether a token belongs to what is around documents. -/
def isMark : Token → Bool
  | .versionDirective .. | .tagDirective .. | .documentStart | .documentEnd => true
  | _ => false

/-- Whether a document is over before the tokens: at most marks of its end may follow. -/
def checkEnd (tokens : List Token) : Except SyntaxError Unit :=
  match tokens.dropWhile (· = .documentEnd) with
  | [] => .ok ()
  | t :: _ => .error (if isMark t then .severalDocuments else .expectedDocument)

/-- Reads the root of a document.  Every two calls of the grammar pass over a token, which bounds the
fuel. -/
def readRoot (handles : List (String × Tag)) (tokens : List Token) :
    Except SyntaxError Document := do
  let state : NodeState := ⟨tokens, handles ++ commonHandles, .empty⟩
  let (root, state) ← (NodeReader.node (4 * tokens.length + 4) true false).run state
  checkEnd state.tokens
  return ⟨some root, state.anchors⟩

/-- The document that tokens stand for. -/
def ofTokens (tokens : List Token) : Except SyntaxError Document := do
  match tokens with
  | [] => return ⟨none, .empty⟩
  | t :: _ =>
    if isMark t && t ≠ .documentEnd then
      let (handles, r) ← readDirectives false [] tokens
      match r with
      | .documentStart :: r =>
        if (r.head?.map isMark).getD true then
          checkEnd r
          return ⟨some .empty, .empty⟩
        else readRoot handles r
      | _ => throw .expectedDocument
    else readRoot [] tokens

end Document

end ApiDesign.Yaml
