import ApiDesign.Yaml.Stream

/-!
# Block scalars

Indented lines after `|` (literal) or `>` (folded).  A header may give the indentation and say how
the line breaks at the end are treated.

* `BlockHeader` — the header;
* `readBlock` — the text and what follows it.
-/

namespace ApiDesign.Yaml

/-- What becomes of the line breaks at the end of a block scalar. -/
inductive Chomping where
  | clip | strip | keep
  deriving DecidableEq, Repr, Inhabited

/-- The header of a block scalar; an indentation of zero stands for one to be found out. -/
structure BlockHeader where
  chomping : Chomping
  increment : Nat

/-- Reads an indentation, if there is one. -/
def readIncrement (cs : List Char) : Except SyntaxError (Nat × List Char) :=
  match cs with
  | c :: r =>
    if c = '0' then .error .malformedBlockHeader
    else if c.isDigit then .ok (c.toNat - '0'.toNat, r)
    else .ok (0, cs)
  | [] => .ok (0, [])

/-- Reads a mark for the line breaks at the end, if there is one. -/
def readChomping : List Char → Option Chomping × List Char
  | '+' :: r => (some .keep, r)
  | '-' :: r => (some .strip, r)
  | r => (none, r)

/-- Reads a header up to the end of its line. -/
def readHeader (cs : List Char) : Except SyntaxError (BlockHeader × List Char) := do
  match readChomping cs with
  | (some chomping, r) =>
    let (increment, r) ← readIncrement r
    return (⟨chomping, increment⟩, ← skipLineEnd .malformedBlockHeader r)
  | (none, r) =>
    let (increment, r) ← readIncrement r
    if increment = 0 then return (⟨.clip, 0⟩, ← skipLineEnd .malformedBlockHeader r)
    else
      let (chomping, r) := readChomping r
      return (⟨chomping.getD .clip, increment⟩, ← skipLineEnd .malformedBlockHeader r)

/-- A block scalar that is being read. -/
structure BlockText where
  /-- The indentation, or zero as long as it is not known. -/
  indent : Nat
  /-- The column of the next character; it counts only in the margin of a line. -/
  column : Nat
  /-- The widest margin so far. -/
  widest : Nat
  /-- Whether the next character belongs to the content of a line. -/
  inLine : Bool
  /-- The text so far, the last character first. -/
  text : List Char
  /-- The line break after the last line with content. -/
  first : List Char
  /-- The line breaks after it, the last one first. -/
  others : List Char
  /-- Whether the last line with content began with a blank. -/
  indented : Bool

namespace BlockText

/-- Begins the content of a line with a character: the line breaks before it are written, or folded
to a blank if neither of the lines around them begins with a blank. -/
def beginLine (folded : Bool) (b : BlockText) (c : Char) : BlockText :=
  let fold := folded && b.first = ['\n'] && !b.indented && !isWhite c
  let breaks :=
    if fold then (if b.others.isEmpty then [' '] else b.others)
    else b.others ++ b.first
  { b with
    inLine := true
    text := c :: (breaks ++ b.text)
    first := []
    others := []
    indented := isWhite c }

/-- The text at the end. -/
def finish (b : BlockText) (chomping : Chomping) : String :=
  let text := if chomping = .strip then b.text else b.first ++ b.text
  let text := if chomping = .keep then b.others ++ text else text
  String.ofList text.reverse

end BlockText

/-- Reads on in a block scalar whose indentation is at least `least`. -/
def readBlockFrom (folded : Bool) (least : Nat) (b : BlockText) :
    List Char → Except SyntaxError (BlockText × List Char)
  | [] => .ok (b, [])
  | c :: r =>
    if b.inLine then
      if isBreak c then
        readBlockFrom folded least { b with inLine := false, column := 0, first := [c] } r
      else readBlockFrom folded least { b with text := c :: b.text } r
    else
      let open' := b.indent = 0 || b.column < b.indent
      let widest := max b.widest b.column
      if c = ' ' && open' then
        readBlockFrom folded least { b with column := b.column + 1 } r
      else if c = '\t' && open' then .error .tabInIndentation
      else if isBreak c then
        readBlockFrom folded least
          { b with column := 0, widest := widest, others := c :: b.others } r
      else
        let indent := if b.indent = 0 then max widest least else b.indent
        if b.column = indent then
          readBlockFrom folded least ({ b with indent := indent }.beginLine folded c) r
        else .ok (b, c :: r)

/-- Reads a block scalar after its mark.  `indent` is the indentation of the block around it. -/
def readBlock (folded : Bool) (indent : Int) (cs : List Char) :
    Except SyntaxError (String × List Char) := do
  let (header, r) ← readHeader cs
  let around := indent.toNat
  let given := if header.increment = 0 then 0 else around + header.increment
  let least := max 1 (indent + 1).toNat
  let (b, r) ← readBlockFrom folded least ⟨given, 0, 0, false, [], [], [], false⟩ r
  return (b.finish header.chomping, r)

end ApiDesign.Yaml
