import ApiDesign.Yaml.Layout
import ApiDesign.Yaml.Node

/-!
# Trees

What a document means, with its aliases in place.  A document may contain itself through its
aliases, so a tree ends at a nesting of 128 collections, and what an alias stands for is worked out
where it is asked for.  A reader may follow a hundred aliases for every scalar, alias, and end of a
collection that the document consists of.

* `Tree` — scalars, sequences, mappings and aliases;
* `Document.tree` — the tree of a document;
* `Document.aliasLimit` — how many aliases a reader may follow;
* `Document.ofText` — the document of a text.
-/

namespace ApiDesign.Yaml

/-- A node with what its aliases stand for. -/
inductive Tree where
  | scalar (value : Scalar)
  | sequence (tag : Option Tag) (items : List Tree)
  | mapping (tag : Option Tag) (entries : List (Tree × Tree))
  | alias (target : Unit → Tree)
  /-- There is no node. -/
  | absent
  deriving Inhabited

/-- The greatest nesting of collections. -/
def maxDepth : Nat := 128

/-- How many aliases are followed for every part of a document. -/
def aliasFactor : Nat := 100

namespace Tree

/-- The tree of a node that is no alias, given the trees of its children. -/
def ofContents (grow : Node → Tree) : Node → Tree
  | .scalar value => .scalar value
  | .sequence tag items => .sequence tag (items.map grow)
  | .mapping tag entries => .mapping tag (entries.map fun e => (grow e.1, grow e.2))
  | .alias _ => .absent

/-- The tree of a node, given the trees of its children. -/
def ofNode (anchors : Anchors) (grow : Node → Tree) : Node → Tree
  | .alias anchor =>
    .alias fun _ => ((anchors.node? anchor).map (ofContents grow)).getD .absent
  | n => ofContents grow n

/-- The tree of a node in which a number of collections may be nested.  The contents of further
collections are left out. -/
def within (anchors : Anchors) : Nat → Node → Tree
  | 0 => ofNode anchors fun _ => .absent
  | room + 1 => ofNode anchors (within anchors room)

end Tree

namespace Document

/-- The tree of a document. -/
def tree (d : Document) : Tree :=
  match d.root with
  | none => .absent
  | some root => Tree.within d.anchors maxDepth root

/-- How many aliases a reader may follow. -/
def aliasLimit (d : Document) : Nat :=
  match d.root with
  | none => 0
  | some root => aliasFactor * root.size

/-- The document of a text. -/
def ofText (text : String) : Except SyntaxError Document := do
  ofTokens (← tokensOf (← streamOf text))

end Document

end ApiDesign.Yaml
