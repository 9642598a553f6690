import ApiDesign.Json.Printer
import ApiDesign.Yaml.Scalar

/-!
# YAML text

How a JSON value is written as a document: mappings and sequences as blocks, each scalar in the
plainest style that reads back as the same text.

* `Shape` — what matters about a text for its style;
* `chooseStyle` — the style of a text;
* `scalarLine` — a scalar up to the end of its last line;
* `print` — the document of a value.
-/

namespace ApiDesign.Yaml

/-- Leading digits from 10⁻⁵ to 10¹⁵ are written positionally; elsewhere an exponent follows. -/
def floatStyle : Decimal.Style := ⟨-5, 15, false⟩

/-! ### Styles -/

/-- A character that ends a line of a document. -/
def endsLine (c : Char) : Bool :=
  c = '\n' || c = '\r' || c = '\u0085' || c = '\u2028' || c = '\u2029'

/-- A character that can stand in a document as it is. -/
def isPlainPrintable (c : Char) : Bool :=
  let n := c.toNat
  n = 0x0A || (0x20 ≤ n && n ≤ 0x7E) || (0xA0 ≤ n && n ≤ 0xD7FF)
    || (0xE000 ≤ n && n ≤ 0xFFFD && n ≠ 0xFEFF) || 0x10000 ≤ n

/-- A character that separates words of a document. -/
def separates (c : Char) : Bool := c = ' ' || c = '\t' || c = '\x00' || endsLine c

/-- Whether a word ends before the characters. -/
def startsBlank : List Char → Bool
  | [] => true
  | c :: _ => separates c

/-- Whether the characters begin with something that has a meaning of its own there. -/
def startsWithMark : List Char → Bool
  | [] => false
  | c :: r =>
    ['-', '-', '-'].isPrefixOf (c :: r) || ['.', '.', '.'].isPrefixOf (c :: r)
      || "#,[]\x7b\x7d&*!|>'\"%@`".toList.contains c
      || ((c = '?' || c = ':' || c = '-') && startsBlank r)

/-- Whether something later in the characters has a meaning of its own; the flag tells whether a
separator stands before them. -/
def containsMark (separated : Bool) : List Char → Bool
  | [] => false
  | c :: r =>
    (c = ':' && startsBlank r) || (c = '#' && separated) || containsMark (separates c) r

/-- Whether two neighbours satisfy one condition each. -/
def hasNeighbours (p q : Char → Bool) : List Char → Bool
  | a :: b :: r => (p a && q b) || hasNeighbours p q (b :: r)
  | _ => false

/-- A blank or the end of a line. -/
def isEdge (c : Char) : Bool := c = ' ' || endsLine c

/-- What matters about a text for its style. -/
structure Shape where
  /-- A character cannot stand there as it is. -/
  special : Bool
  /-- There are several lines. -/
  multiline : Bool
  /-- A blank or the end of a line stands at the beginning or the end. -/
  edged : Bool
  blankAtEnd : Bool
  /-- A blank stands at the beginning of a later line. -/
  blankAfterBreak : Bool
  /-- A blank stands at the end of a line. -/
  blankBeforeBreak : Bool
  /-- Something has a meaning of its own. -/
  marked : Bool

/-- The shape of a text. -/
def Shape.of (cs : List Char) : Shape where
  special := !cs.all isPlainPrintable
  multiline := cs.any endsLine
  edged := (cs.head?.map isEdge).getD false || (cs.getLast?.map isEdge).getD false
  blankAtEnd := cs.getLast? = some ' '
  blankAfterBreak := hasNeighbours endsLine (· = ' ') cs
  blankBeforeBreak := hasNeighbours (· = ' ') endsLine cs
  marked := startsWithMark cs || match cs with
    | [] => false
    | c :: r => containsMark (separates c) r

namespace Shape

/-- Whether a text of the shape can be plain. -/
def allowsPlain (s : Shape) : Bool :=
  !(s.special || s.multiline || s.edged || s.marked)

/-- Whether a text of the shape can stand between single quotes. -/
def allowsSingle (s : Shape) : Bool := !(s.special || s.blankAfterBreak || s.blankBeforeBreak)

/-- Whether a text of the shape can be a literal block. -/
def allowsLiteral (s : Shape) : Bool := !(s.special || s.blankAtEnd || s.blankBeforeBreak)

end Shape

/-- Whether a plain text would not be read as that text. -/
def readsOtherwise (s : String) : Bool :=
  isPaddedNumber s.toList ||
    match Plain.ofText s with
    | .text => false
    | _ => true

/-- The style of a text: a literal block for a text with line feeds, else quotes where a plain text
would not be read as that text; where a style cannot hold the text, one that can. -/
def chooseStyle (s : String) : ScalarStyle :=
  let cs := s.toList
  let shape := Shape.of cs
  if cs.contains '\n' then if shape.allowsLiteral then .literal else .doubleQuoted
  else if !readsOtherwise s && shape.allowsPlain then .plain
  else if shape.allowsSingle then .singleQuoted
  else .doubleQuoted

/-! ### Scalars -/

/-- The blanks of an indentation. -/
def blanks (indent : Nat) : List Char := List.replicate indent ' '

/-- The contents of single quotes; `fresh` tells whether a line begins. -/
def singleQuotedFrom (indent : Nat) (fresh : Bool) : List Char → List Char
  | [] => if fresh then blanks indent else []
  | c :: r =>
    if endsLine c then c :: singleQuotedFrom indent true r
    else
      (if fresh then blanks indent else []) ++ (if c = '\'' then ['\'', '\''] else [c])
        ++ singleQuotedFrom indent false r

/-- The digits of an escape. -/
def escapeDigits (width n : Nat) : List Char :=
  let ds := (Nat.toDigits 16 n).map Char.toUpper
  List.replicate (width - ds.length) '0' ++ ds

/-- The form of a character between double quotes. -/
def escapeDouble (c : Char) : List Char :=
  let n := c.toNat
  if c = '"' then ['\\', '"']
  else if c = '\\' then ['\\', '\\']
  else if isPlainPrintable c && !endsLine c then [c]
  else if c = '\x00' then ['\\', '0']
  else if c = '\x07' then ['\\', 'a']
  else if c = '\x08' then ['\\', 'b']
  else if c = '\t' then ['\\', 't']
  else if c = '\n' then ['\\', 'n']
  else if c = '\x0b' then ['\\', 'v']
  else if c = '\x0c' then ['\\', 'f']
  else if c = '\r' then ['\\', 'r']
  else if c = '\x1b' then ['\\', 'e']
  else if c = '\u0085' then ['\\', 'N']
  else if c = '\u2028' then ['\\', 'L']
  else if c = '\u2029' then ['\\', 'P']
  else if n ≤ 0xFF then '\\' :: 'x' :: escapeDigits 2 n
  else if n ≤ 0xFFFF then '\\' :: 'u' :: escapeDigits 4 n
  else '\\' :: 'U' :: escapeDigits 8 n

/-- The lines of a literal block; `fresh` tells whether a line begins. -/
def literalFrom (indent : Nat) (fresh : Bool) : List Char → List Char
  | [] => if fresh then [] else ['\n']
  | c :: r =>
    if endsLine c then c :: literalFrom indent true r
    else (if fresh then blanks indent else []) ++ c :: literalFrom indent false r

/-- What the header of a literal block says about the line breaks at its end. -/
def chompingMark (cs : List Char) : List Char :=
  match cs.reverse with
  | [] => ['-']
  | [c] => if endsLine c then ['+'] else ['-']
  | c :: d :: _ => if !endsLine c then ['-'] else if endsLine d then ['+'] else []

/-- The header of a literal block. -/
def literalHeader (cs : List Char) : List Char :=
  '|' :: (if (cs.head?.map isEdge).getD false then ['2'] else []) ++ chompingMark cs ++ ['\n']

/-- A text in a collection that is indented by `indent`, up to the end of its last line. -/
def textLine (indent : Nat) (s : String) : List Char :=
  let cs := s.toList
  match chooseStyle s with
  | .literal | .folded => literalHeader cs ++ literalFrom (indent + 2) true cs
  | .singleQuoted => '\'' :: singleQuotedFrom (indent + 2) false cs ++ ['\'', '\n']
  | .doubleQuoted => '"' :: cs.flatMap escapeDouble ++ ['"', '\n']
  | .plain => cs ++ ['\n']

/-- A scalar or an empty collection, up to the end of its last line. -/
def scalarLine (indent : Nat) : Json → List Char
  | .null => "null\n".toList
  | .bool b => (if b then "true\n" else "false\n").toList
  | .int i => (Json.intText i).toList ++ ['\n']
  | .float x => (floatText floatStyle x).toList ++ ['\n']
  | .str s => textLine indent s
  | .arr _ => "[]\n".toList
  | .obj _ => "\x7b\x7d\n".toList

/-! ### Keys -/

/-- The greatest number of bytes of a key that stands on the line of its value. -/
def maxKeySize : Nat := 128

/-- Whether a key stands on the line of its value. -/
def isSimpleKey (key : String) : Bool := key.utf8ByteSize ≤ maxKeySize && !key.toList.any endsLine

/-- An entry without the indentation of its first line, given its value after a colon and after a
mark. -/
def entryLine (indent : Nat) (k : String) (colon mark : Unit → List Char) : List Char :=
  if isSimpleKey k then (textLine indent k).dropLast ++ ':' :: colon ()
  else '?' :: ' ' :: textLine indent k ++ (blanks indent ++ ':' :: mark ())

/-! ### Collections -/

mutual

/-- A value after the colon of a key on the same line, in a mapping that is indented by `indent`.  A
sequence is not indented further. -/
def afterColon (indent : Nat) : Json → List Char
  | .arr xs => if xs.isEmpty then ' ' :: scalarLine indent (.arr []) else '\n' :: items indent xs
  | .obj es =>
    if es.isEmpty then ' ' :: scalarLine indent (.obj []) else '\n' :: entries (indent + 2) es
  | v => ' ' :: scalarLine indent v

/-- A value after a mark, in a collection that is indented by `indent`.  A collection goes on in the
line of the mark. -/
def afterMark (indent : Nat) : Json → List Char
  | .arr (x :: r) => ' ' :: '-' :: (afterMark (indent + 2) x ++ items (indent + 2) r)
  | .obj ((k, v) :: r) =>
    let first := entryLine (indent + 2) k (fun _ => afterColon (indent + 2) v)
      (fun _ => afterMark (indent + 2) v)
    ' ' :: (first ++ entries (indent + 2) r)
  | v => ' ' :: scalarLine indent v

/-- The items of a sequence, one after the other. -/
def items (indent : Nat) : List Json → List Char
  | [] => []
  | x :: r => blanks indent ++ '-' :: (afterMark indent x ++ items indent r)

/-- The entries of a mapping, one after the other. -/
def entries (indent : Nat) : List (String × Json) → List Char
  | [] => []
  | (k, v) :: r =>
    let first := entryLine indent k (fun _ => afterColon indent v) (fun _ => afterMark indent v)
    blanks indent ++ (first ++ entries indent r)

end

/-- The document of a value. -/
def print : Json → String
  | .arr (x :: r) => String.ofList (items 0 (x :: r))
  | .obj (e :: r) => String.ofList (entries 0 (e :: r))
  | v => String.ofList (scalarLine 0 v)

end ApiDesign.Yaml
